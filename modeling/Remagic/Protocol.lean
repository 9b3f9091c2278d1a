import Remagic.Packets
import Remagic.Host

/-!
# The wire of the display

The packets of the QTFB socket: what the host decodes and encodes, and what the
application SDK and the home application encode and parse, each from its own
constants and offsets. A packet is one datagram; the sockets deliver it whole.
-/

namespace Remagic.Display
open Packets

/-! ## The host -/

namespace Wire

def messageInitialize : UInt8 := 0
def messageUpdate : UInt8 := 1
def messageCustomInitialize : UInt8 := 2
def messageTerminate : UInt8 := 3
def messageUserinput : UInt8 := 4
def messageSetRefreshMode : UInt8 := 5
def messageRequestFullRefresh : UInt8 := 6

def updateAll : Int32 := 0
def updatePartial : Int32 := 1

def inputTouchPress : Int32 := 0x10
def inputTouchRelease : Int32 := 0x11
def inputTouchUpdate : Int32 := 0x12
def inputPenPress : Int32 := 0x20
def inputPenRelease : Int32 := 0x21
def inputPenUpdate : Int32 := 0x22

end Wire

def PixelFormat.fromQtfb (value : UInt8) : Option PixelFormat :=
  match value.toNat with
  | 0 | 3 | 6 => some .rgb565
  | 1 | 4 => some .rgb888
  | 2 | 5 => some .rgba8888
  | _ => none

inductive ClientPacket where
  | initializeSurface (key : Int32) (format : PixelFormat) (width height : Int32)
  | update (rect : Option Rect)
  | terminate
  | setRefreshMode (mode : Int32)
  | requestFullRefresh
deriving DecidableEq, Repr

def defaultDimensions (format : UInt8) : Except String (Int32 × Int32) :=
  if format.toNat = 0 then .ok (1404, 1872)
  else if format.toNat ≤ 3 then .ok (1620, 2160)
  else if format.toNat ≤ 6 then .ok (954, 1696)
  else .error "unsupported pixel format"

namespace ClientPacket
open Wire

def decode (bytes : Vector UInt8 24) : Except String ClientPacket :=
  let message := byte bytes 0
  if message = messageInitialize then
    match PixelFormat.fromQtfb (byte bytes 8) with
    | none => .error "unsupported pixel format"
    | some format => do
      let (width, height) ← defaultDimensions (byte bytes 8)
      pure (.initializeSurface (getI32 bytes 4) format width height)
  else if message = messageCustomInitialize then
    match PixelFormat.fromQtfb (byte bytes 8) with
    | none => .error "unsupported pixel format"
    | some format =>
      let width := (getU16 bytes 10).toUInt32.toInt32
      let height := (getU16 bytes 12).toUInt32.toInt32
      if width ≤ 0 ∨ height ≤ 0 then .error "invalid custom dimensions"
      else .ok (.initializeSurface (getI32 bytes 4) format width height)
  else if message = messageUpdate then
    let kind := getI32 bytes 4
    if kind = updateAll then .ok (.update none)
    else if kind = updatePartial then
      .ok (.update (some ⟨(getI32 bytes 8).toInt, (getI32 bytes 12).toInt, (getI32 bytes 16).toInt, (getI32 bytes 20).toInt⟩))
    else .error "unsupported update type"
  else if message = messageTerminate then .ok .terminate
  else if message = messageSetRefreshMode then
    let mode := getI32 bytes 4
    if ¬(refreshModeUfast ≤ mode.toInt ∧ mode.toInt ≤ refreshModeUi) then .error "invalid refresh mode"
    else .ok (.setRefreshMode mode)
  else if message = messageRequestFullRefresh then .ok .requestFullRefresh
  else .error "unknown QTFB packet"

end ClientPacket

/-- `usize` has 64 bits on the devices. -/
def initializeReply (shmKey : Int32) (shmSize : UInt64) : Vector UInt8 32 :=
  let bytes := setByte (zeros 32) 0 Wire.messageInitialize
  let bytes := putI32 bytes 8 shmKey
  putU64 bytes 16 shmSize

def inputPacket (inputType deviceId x y detail : Int32) : Vector UInt8 32 :=
  let bytes := setByte (zeros 32) 0 Wire.messageUserinput
  [inputType, deviceId, x, y, detail].zipIdx.foldl (fun bytes (value, offset) => putI32 bytes (8 + offset * 4) value) bytes

end Remagic.Display

/-! ## The application SDK -/

namespace Remagic.Sdk
open Packets

def messageInitialize : UInt8 := 0
def messageUpdate : UInt8 := 1
def messageTerminate : UInt8 := 3
def messageUserinput : UInt8 := 4
def messageSetRefreshMode : UInt8 := 5
def updateAll : Int32 := 0
def updatePartial : Int32 := 1
def maxEventsPerPump : Nat := 256

inductive TouchPhase where
  | press | move | release
deriving DecidableEq, Repr

structure InputEvent where
  phase : TouchPhase
  finger : Int32
  x : Int32
  y : Int32
deriving DecidableEq, Repr

/-! The messages that `QtfbClient` sends. -/

def initializeMessage (key : Int32) (format : UInt8) : Vector UInt8 24 :=
  setByte (putI32 (setByte (zeros 24) 0 messageInitialize) 4 key) 8 format

def updateAllMessage : Vector UInt8 24 :=
  putI32 (setByte (zeros 24) 0 messageUpdate) 4 updateAll

def updatePartialMessage (x y width height : Int32) : Vector UInt8 24 :=
  let message := putI32 (setByte (zeros 24) 0 messageUpdate) 4 updatePartial
  [x, y, width, height].zipIdx.foldl (fun message (value, slot) => putI32 message (8 + slot * 4) value) message

def setRefreshModeMessage (mode : Int32) : Vector UInt8 24 :=
  putI32 (setByte (zeros 24) 0 messageSetRefreshMode) 4 mode

def terminateMessage : Vector UInt8 24 := setByte (zeros 24) 0 messageTerminate

/-- The reply as `initialize` reads it: the shared memory's key and length. -/
def parseReply (reply : Vector UInt8 32) (read : Nat) : Option (Int32 × UInt64) :=
  if read < 24 then none else some (getI32 reply 8, getU64 reply 16)

def touchPhase (raw : Int32) : Option TouchPhase :=
  if raw = 0x10 then some .press
  else if raw = 0x11 then some .release
  else if raw = 0x12 then some .move
  else none

/-- What `drain_touch` makes of one packet. -/
def parseInput (packet : Vector UInt8 32) (read : Nat) : Option InputEvent :=
  if byte packet 0 = messageUserinput ∧ 28 ≤ read then
    (touchPhase (getI32 packet 8)).map fun phase => ⟨phase, getI32 packet 12, getI32 packet 16, getI32 packet 20⟩
  else none

/-- `drain_touch` over the packets that wait in the socket. It stops when it has
    gathered `MAX_EVENTS_PER_PUMP` events, after a packet of input. -/
def drainTouch (events : List InputEvent) : List (Vector UInt8 32 × Nat) → List InputEvent
  | [] => events
  | (packet, read) :: rest =>
    let events := events ++ (parseInput packet read).toList
    if byte packet 0 = messageUserinput ∧ 28 ≤ read ∧ events.length = maxEventsPerPump then events
    else drainTouch events rest

end Remagic.Sdk

/-! ## The home application -/

namespace Remagic.Home
open Packets

def clientSize : Nat := 24
def serverSize : Nat := 32
def messageInitialize : UInt8 := 0
def messageUpdate : UInt8 := 1
def messageTerminate : UInt8 := 3
def messageUserinput : UInt8 := 4
def messageSetRefreshMode : UInt8 := 5
def updateAll : Int32 := 0
def updatePartial : Int32 := 1
def inputTouchPress : Int32 := 0x10
def inputTouchRelease : Int32 := 0x11

inductive TouchEvent where
  | press (x y : Int32)
  | release (x y : Int32)
deriving DecidableEq, Repr

/-- What `Client` remembers of the touch. -/
structure Client where
  primaryTouch : Option Int32
  lastTouch : Int32 × Int32
deriving DecidableEq, Repr

def initializeMessage (key : Int32) (format : UInt8) : Vector UInt8 24 :=
  setByte (putI32 (setByte (zeros clientSize) 0 messageInitialize) 4 key) 8 format

def updateAllMessage : Vector UInt8 24 :=
  putI32 (setByte (zeros clientSize) 0 messageUpdate) 4 updateAll

def updateMessage (x y width height : Int32) : Vector UInt8 24 :=
  let packet := setByte (zeros clientSize) 0 messageUpdate
  [(4, updatePartial), (8, x), (12, y), (16, width), (20, height)].foldl
    (fun packet (offset, value) => putI32 packet offset value) packet

def setRefreshModeMessage (mode : Int32) : Vector UInt8 24 :=
  putI32 (setByte (zeros clientSize) 0 messageSetRefreshMode) 4 mode

def terminateMessage : Vector UInt8 24 := setByte (zeros clientSize) 0 messageTerminate

/-- The reply as `initialize_surface` reads it. -/
def parseReply (reply : Vector UInt8 32) (received : Nat) : Option (Int32 × UInt64) :=
  if received ≠ serverSize ∨ byte reply 0 ≠ messageInitialize then none
  else some (getI32 reply 8, getU64 reply 16)

namespace Client

/-- One turn of the loop of `poll_touch_events`. -/
def pollTouchEvent (client : Client) (packet : Vector UInt8 32) (received : Nat) : Option TouchEvent × Client :=
  if received ≠ serverSize ∨ byte packet 0 ≠ messageUserinput then (none, client)
  else
    let inputType := getI32 packet 8
    let deviceId := getI32 packet 12
    let x := getI32 packet 16
    let y := getI32 packet 20
    if inputType = inputTouchPress ∧ client.primaryTouch = none then
      (some (.press x y), { primaryTouch := some deviceId, lastTouch := (x, y) })
    else if client.primaryTouch = some deviceId then
      if inputType = inputTouchRelease then
        (some (.release x y), { primaryTouch := none, lastTouch := (x, y) })
      else (none, { client with lastTouch := (x, y) })
    else (none, client)

def pollTouchEvents (client : Client) : List (Vector UInt8 32 × Nat) → List TouchEvent × Client
  | [] => ([], client)
  | (packet, received) :: rest =>
    let (event, next) := client.pollTouchEvent packet received
    let (events, last) := next.pollTouchEvents rest
    (event.toList ++ events, last)

end Client
end Remagic.Home
