import Remagic.Protocol

/-!
# The three codecs agree

Each packet a client encodes is decoded to the request it was encoded from, or
refused where the host supports no such format or mode. Each reply and each input
packet of the host is parsed to the fields that the client has a use for.
-/

namespace Remagic.Display
open Packets

/-! ## From the clients to the host -/

/-- What a client asks for. -/
inductive Request where
  | connect (key : Int32) (format : UInt8)
  | updateAll
  | updatePartial (x y width height : Int32)
  | setRefreshMode (mode : Int32)
  | terminate
deriving DecidableEq, Repr

/-- The formats of a surface, with the canvas that each stands for. -/
def formats : List (UInt8 × PixelFormat × Int32 × Int32) :=
  [(0, .rgb565, 1404, 1872), (1, .rgb888, 1620, 2160), (2, .rgba8888, 1620, 2160), (3, .rgb565, 1620, 2160),
    (4, .rgb888, 954, 1696), (5, .rgba8888, 954, 1696), (6, .rgb565, 954, 1696)]

namespace Request

def sdk : Request → Vector UInt8 24
  | .connect key format => Sdk.initializeMessage key format
  | .updateAll => Sdk.updateAllMessage
  | .updatePartial x y width height => Sdk.updatePartialMessage x y width height
  | .setRefreshMode mode => Sdk.setRefreshModeMessage mode
  | .terminate => Sdk.terminateMessage

def home : Request → Vector UInt8 24
  | .connect key format => Home.initializeMessage key format
  | .updateAll => Home.updateAllMessage
  | .updatePartial x y width height => Home.updateMessage x y width height
  | .setRefreshMode mode => Home.setRefreshModeMessage mode
  | .terminate => Home.terminateMessage

/-- What the host is to make of it. -/
def answer : Request → Except String ClientPacket
  | .connect key format =>
    match formats.lookup format with
    | some (pixels, width, height) => .ok (.initializeSurface key pixels width height)
    | none => .error "unsupported pixel format"
  | .updateAll => .ok (.update none)
  | .updatePartial x y width height => .ok (.update (some ⟨x.toInt, y.toInt, width.toInt, height.toInt⟩))
  | .setRefreshMode mode =>
    if mode ∈ [0, 1, 2, 3, 4] then .ok (.setRefreshMode mode) else .error "invalid refresh mode"
  | .terminate => .ok .terminate

end Request

@[simp] theorem byte_message {n : Nat} {message : UInt8} {i : Nat} :
    byte (setByte (zeros n) 0 message) i = if 0 = i ∧ i < n then message else 0 := by
  rw [byte_setByte, byte_zeros]

/-- The clients encode alike. -/
theorem sdk_eq_home (request : Request) : request.sdk = request.home := by
  cases request with
  | _ => rfl

/-- What holds of each number below 256 holds of each byte. -/
theorem forall_byte {P : UInt8 → Prop} (each : ∀ n < 256, P (UInt8.ofNat n)) (b : UInt8) : P b := by
  have := each b.toNat b.toNat_lt
  rwa [UInt8.ofNat_toNat] at this

theorem fromQtfb_eq (format : UInt8) : PixelFormat.fromQtfb format = (formats.lookup format).map Prod.fst := by
  refine forall_byte (P := fun format => PixelFormat.fromQtfb format = (formats.lookup format).map Prod.fst) ?_ format
  decide +kernel

/-- The host has dimensions for the formats that it knows. -/
theorem defaultDimensions_eq (format : UInt8) :
    (defaultDimensions format).toOption = (formats.lookup format).map Prod.snd := by
  refine forall_byte (P := fun format => (defaultDimensions format).toOption = (formats.lookup format).map Prod.snd) ?_ format
  decide +kernel

theorem connect_answered (key : Int32) (format : UInt8) :
    ClientPacket.decode (Sdk.initializeMessage key format) = (Request.connect key format).answer := by
  have message : byte (Sdk.initializeMessage key format) 0 = 0 := by
    simp [Sdk.initializeMessage, byte_setByte, Sdk.messageInitialize]
  have pixels : byte (Sdk.initializeMessage key format) 8 = format := by
    simp [Sdk.initializeMessage, byte_setByte]
  have name : getI32 (Sdk.initializeMessage key format) 4 = key := by
    simp [Sdk.initializeMessage]
  have dimensions := defaultDimensions_eq format
  unfold ClientPacket.decode Request.answer
  simp only [message, pixels, name, Wire.messageInitialize, if_true, fromQtfb_eq]
  cases known : formats.lookup format with
  | none => rfl
  | some row =>
    obtain ⟨pixels, width, height⟩ := row
    rw [known] at dimensions
    simp only [Option.map_some]
    cases given : defaultDimensions format with
    | error text =>
      rw [given] at dimensions
      cases dimensions
    | ok size =>
      rw [given] at dimensions
      cases dimensions
      rfl

theorem updateAll_answered : ClientPacket.decode Sdk.updateAllMessage = Request.updateAll.answer := by
  have message : byte Sdk.updateAllMessage 0 = Wire.messageUpdate := by
    simp [Sdk.updateAllMessage, Sdk.messageUpdate, Wire.messageUpdate]
  have kind : getI32 Sdk.updateAllMessage 4 = Wire.updateAll := by
    simp [Sdk.updateAllMessage, Sdk.updateAll, Wire.updateAll]
  simp [ClientPacket.decode, message, kind, Wire.messageUpdate, Wire.messageInitialize, Wire.messageCustomInitialize,
    Request.answer]

theorem updatePartial_answered (x y width height : Int32) :
    ClientPacket.decode (Sdk.updatePartialMessage x y width height) = (Request.updatePartial x y width height).answer := by
  have message : byte (Sdk.updatePartialMessage x y width height) 0 = Wire.messageUpdate := by
    simp [Sdk.updatePartialMessage, Sdk.messageUpdate, Wire.messageUpdate]
  have kind : getI32 (Sdk.updatePartialMessage x y width height) 4 = Wire.updatePartial := by
    simp [Sdk.updatePartialMessage, Sdk.updatePartial, Wire.updatePartial]
  have left : getI32 (Sdk.updatePartialMessage x y width height) 8 = x := by
    simp [Sdk.updatePartialMessage]
  have top : getI32 (Sdk.updatePartialMessage x y width height) 12 = y := by
    simp [Sdk.updatePartialMessage]
  have wide : getI32 (Sdk.updatePartialMessage x y width height) 16 = width := by
    simp [Sdk.updatePartialMessage]
  have high : getI32 (Sdk.updatePartialMessage x y width height) 20 = height := by
    simp [Sdk.updatePartialMessage]
  simp [ClientPacket.decode, message, kind, left, top, wide, high, Wire.messageUpdate, Wire.messageInitialize,
    Wire.messageCustomInitialize, Wire.updateAll, Wire.updatePartial, Request.answer]

/-- The modes from `UFAST` to `UI` are five. -/
theorem refreshMode_mem (mode : Int32) :
    (refreshModeUfast ≤ mode.toInt ∧ mode.toInt ≤ refreshModeUi) ↔ mode ∈ [(0 : Int32), 1, 2, 3, 4] := by
  unfold refreshModeUfast refreshModeUi
  constructor
  · rintro ⟨low, high⟩
    have cases : mode.toInt = 0 ∨ mode.toInt = 1 ∨ mode.toInt = 2 ∨ mode.toInt = 3 ∨ mode.toInt = 4 := by omega
    have same : mode = Int32.ofInt mode.toInt := (Int32.ofInt_toInt mode).symm
    rcases cases with value | value | value | value | value <;> rw [same, value] <;> decide
  · intro member
    simp only [List.mem_cons, List.not_mem_nil, or_false] at member
    rcases member with rfl | rfl | rfl | rfl | rfl <;> decide

theorem setRefreshMode_answered (mode : Int32) :
    ClientPacket.decode (Sdk.setRefreshModeMessage mode) = (Request.setRefreshMode mode).answer := by
  have message : byte (Sdk.setRefreshModeMessage mode) 0 = Wire.messageSetRefreshMode := by
    simp [Sdk.setRefreshModeMessage, Sdk.messageSetRefreshMode, Wire.messageSetRefreshMode]
  have kind : getI32 (Sdk.setRefreshModeMessage mode) 4 = mode := by
    simp [Sdk.setRefreshModeMessage]
  have others : Wire.messageSetRefreshMode ≠ Wire.messageInitialize ∧
      Wire.messageSetRefreshMode ≠ Wire.messageCustomInitialize ∧ Wire.messageSetRefreshMode ≠ Wire.messageUpdate ∧
      Wire.messageSetRefreshMode ≠ Wire.messageTerminate := by decide
  obtain ⟨connects, customs, updates, terminates⟩ := others
  unfold ClientPacket.decode Request.answer
  simp only [message, kind, connects, customs, updates, terminates, refreshMode_mem, if_false, if_true]
  by_cases known : mode ∈ [(0 : Int32), 1, 2, 3, 4]
  · simp only [known, not_true_eq_false, if_false, if_true]
  · simp only [known, not_false_eq_true, if_false, if_true]

theorem terminate_answered : ClientPacket.decode Sdk.terminateMessage = Request.terminate.answer := by
  have message : byte Sdk.terminateMessage 0 = Wire.messageTerminate := by
    simp [Sdk.terminateMessage, Sdk.messageTerminate, Wire.messageTerminate]
  simp [ClientPacket.decode, message, Wire.messageTerminate, Wire.messageUpdate, Wire.messageInitialize,
    Wire.messageCustomInitialize, Request.answer]

theorem request_answered (request : Request) : ClientPacket.decode request.sdk = request.answer := by
  cases request with
  | connect key format => exact connect_answered key format
  | updateAll => exact updateAll_answered
  | updatePartial x y width height => exact updatePartial_answered x y width height
  | setRefreshMode mode => exact setRefreshMode_answered mode
  | terminate => exact terminate_answered

/-! ## From the host to the clients -/

/-- The fields of an input packet. -/
structure Input where
  inputType : Int32
  deviceId : Int32
  x : Int32
  y : Int32
  detail : Int32
deriving DecidableEq, Repr

def Input.packet (input : Input) : Vector UInt8 32 :=
  inputPacket input.inputType input.deviceId input.x input.y input.detail

/-- The finger's part in an input: the SDK reports touches and no pen. -/
def Input.finger (input : Input) : Option Sdk.InputEvent :=
  if input.inputType = Wire.inputTouchPress then some ⟨.press, input.deviceId, input.x, input.y⟩
  else if input.inputType = Wire.inputTouchRelease then some ⟨.release, input.deviceId, input.x, input.y⟩
  else if input.inputType = Wire.inputTouchUpdate then some ⟨.move, input.deviceId, input.x, input.y⟩
  else none

/-- The home application reports the press and the release of one finger at a time. -/
def Input.primary (input : Input) (touch : Option Int32) : Option Home.TouchEvent × Option Int32 :=
  if input.inputType = Wire.inputTouchPress ∧ touch = none then (some (.press input.x input.y), some input.deviceId)
  else if input.inputType = Wire.inputTouchRelease ∧ touch = some input.deviceId then
    (some (.release input.x input.y), none)
  else (none, touch)

section
variable (input : Input)

theorem packet_byte : byte input.packet 0 = Wire.messageUserinput := by
  simp [Input.packet, inputPacket]

theorem packet_fields : getI32 input.packet 8 = input.inputType ∧ getI32 input.packet 12 = input.deviceId ∧
    getI32 input.packet 16 = input.x ∧ getI32 input.packet 20 = input.y ∧ getI32 input.packet 24 = input.detail := by
  simp [Input.packet, inputPacket]

theorem parseInput_packet : Sdk.parseInput input.packet 32 = input.finger := by
  obtain ⟨inputType, deviceId, x, y, _⟩ := packet_fields input
  have message : byte input.packet 0 = Sdk.messageUserinput := packet_byte input
  unfold Sdk.parseInput Input.finger Sdk.touchPhase
  simp only [message, inputType, deviceId, x, y, Wire.inputTouchPress, Wire.inputTouchRelease, Wire.inputTouchUpdate]
  split_ifs <;> simp_all

theorem pollTouchEvent_packet (client : Home.Client) :
    ((client.pollTouchEvent input.packet 32).1, (client.pollTouchEvent input.packet 32).2.primaryTouch) =
      input.primary client.primaryTouch := by
  obtain ⟨inputType, deviceId, x, y, _⟩ := packet_fields input
  have message : byte input.packet 0 = Home.messageUserinput := packet_byte input
  unfold Home.Client.pollTouchEvent Input.primary
  simp only [message, inputType, deviceId, x, y, Home.serverSize, Home.inputTouchPress, Home.inputTouchRelease,
    Wire.inputTouchPress, Wire.inputTouchRelease]
  split_ifs <;> simp_all

end

theorem parseReply_reply (shmKey : Int32) (shmSize : UInt64) :
    Sdk.parseReply (initializeReply shmKey shmSize) 32 = some (shmKey, shmSize) ∧
      Home.parseReply (initializeReply shmKey shmSize) 32 = some (shmKey, shmSize) := by
  have message : byte (initializeReply shmKey shmSize) 0 = Home.messageInitialize := by
    simp [initializeReply, Wire.messageInitialize, Home.messageInitialize]
  have key : getI32 (initializeReply shmKey shmSize) 8 = shmKey := by
    simp [initializeReply]
  have size : getU64 (initializeReply shmKey shmSize) 16 = shmSize := by
    simp [initializeReply]
  simp [Sdk.parseReply, Home.parseReply, message, key, size, Home.serverSize]

/-- The SDK drains the touches of the waiting packets in their order, up to its limit. -/
theorem drainTouch_packets (inputs : List Input) (events : List Sdk.InputEvent)
    (short : events.length < Sdk.maxEventsPerPump) :
    Sdk.drainTouch events (inputs.map fun input => (input.packet, 32)) =
      (events ++ inputs.filterMap Input.finger).take Sdk.maxEventsPerPump := by
  induction inputs generalizing events with
  | nil =>
    simp only [List.map_nil, List.filterMap_nil, List.append_nil, Sdk.drainTouch]
    rw [List.take_of_length_le short.le]
  | cons input rest ih =>
    have message : byte input.packet 0 = Sdk.messageUserinput := packet_byte input
    have split : events ++ (input :: rest).filterMap Input.finger =
        (events ++ input.finger.toList) ++ rest.filterMap Input.finger := by
      cases shown : input.finger with
      | none => simp [shown]
      | some event => simp [shown]
    have grown : (events ++ input.finger.toList).length ≤ Sdk.maxEventsPerPump := by
      cases input.finger with
      | none => simpa using short.le
      | some event => simpa using Nat.succ_le_of_lt short
    rw [split]
    simp only [List.map_cons, Sdk.drainTouch, parseInput_packet, message, true_and]
    by_cases full : (events ++ input.finger.toList).length = Sdk.maxEventsPerPump
    · rw [if_pos ⟨by decide, full⟩, List.take_append_of_le_length full.ge, List.take_of_length_le full.le]
    · rw [if_neg fun stop => full stop.2]
      exact ih _ (lt_of_le_of_ne grown full)

/-! ## Agreement -/

/-- The host answers each request of either client with exactly its fields, where it
    supports its format or mode, and refuses it elsewhere; both clients read its
    replies and the touches among its input packets. -/
theorem wire_agrees :
    (∀ request : Request,
      ClientPacket.decode request.sdk = request.answer ∧ ClientPacket.decode request.home = request.answer) ∧
    (∀ shmKey shmSize, Sdk.parseReply (initializeReply shmKey shmSize) 32 = some (shmKey, shmSize) ∧
      Home.parseReply (initializeReply shmKey shmSize) 32 = some (shmKey, shmSize)) ∧
    (∀ inputs : List Input, Sdk.drainTouch [] (inputs.map fun input => (input.packet, 32)) =
      (inputs.filterMap Input.finger).take Sdk.maxEventsPerPump) ∧
    ∀ (input : Input) (client : Home.Client),
      ((client.pollTouchEvent input.packet 32).1, (client.pollTouchEvent input.packet 32).2.primaryTouch) =
        input.primary client.primaryTouch := by
  refine ⟨fun request => ?_, parseReply_reply, fun inputs => ?_, pollTouchEvent_packet⟩
  · exact ⟨request_answered request, sdk_eq_home request ▸ request_answered request⟩
  · exact drainTouch_packets inputs [] (by decide)

/-- The host refuses a mode that both clients encode, the SDK passes over a pen, and
    neither client reads the detail of an input. -/
theorem wire_drops_fields :
    ClientPacket.decode (Sdk.setRefreshModeMessage 5) = .error "invalid refresh mode" ∧
    ClientPacket.decode (Home.setRefreshModeMessage 5) = .error "invalid refresh mode" ∧
    Sdk.parseInput (inputPacket Wire.inputPenPress 0 1 2 3) 32 = none ∧
    Sdk.parseInput (inputPacket Wire.inputTouchPress 0 1 2 3) 32 =
      Sdk.parseInput (inputPacket Wire.inputTouchPress 0 1 2 4) 32 := by
  refine ⟨setRefreshMode_answered 5, setRefreshMode_answered 5, ?_, ?_⟩
  · exact parseInput_packet ⟨Wire.inputPenPress, 0, 1, 2, 3⟩
  · have three := parseInput_packet ⟨Wire.inputTouchPress, 0, 1, 2, 3⟩
    have four := parseInput_packet ⟨Wire.inputTouchPress, 0, 1, 2, 4⟩
    exact three.trans four.symm

end Remagic.Display
