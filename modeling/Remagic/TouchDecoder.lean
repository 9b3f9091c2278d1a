import Mathlib.Data.List.Basic
import Remagic.Host
import Remagic.Runs

/-!
# Touch decoding

The panel's touch controller reports its contacts slot by slot, and ends each report with
a `SYN_REPORT`. The decoder gathers what a report says of each slot, and makes one frame
of each slot that has changed.
-/

namespace Remagic.Display

/-! ## Events -/

structure RawEvent where
  timeNs : Nat
  eventType : Nat
  code : Nat
  value : Int
  deriving DecidableEq

/-- What the touch decoder makes of an event's type and code. -/
inductive TouchReading where
  | slot (value : Int)
  | trackingId (value : Int)
  | x (value : Int)
  | y (value : Int)
  | pressure (value : Int)
  | report
  | dropped
  | ignored
  deriving DecidableEq

def evSyn : Nat := 0
def evAbs : Nat := 3
def synReport : Nat := 0
def synDropped : Nat := 3
def absMtSlot : Nat := 47
def absMtPositionX : Nat := 53
def absMtPositionY : Nat := 54
def absMtTrackingId : Nat := 57
def absMtPressure : Nat := 58

def RawEvent.reading (event : RawEvent) : TouchReading :=
  if event.eventType = evSyn then
    if event.code = synDropped then .dropped else if event.code = synReport then .report else .ignored
  else if event.eventType = evAbs then
    if event.code = absMtSlot then .slot event.value
    else if event.code = absMtTrackingId then .trackingId event.value
    else if event.code = absMtPositionX then .x event.value
    else if event.code = absMtPositionY then .y event.value
    else if event.code = absMtPressure then .pressure event.value
    else .ignored
  else .ignored

structure AxisRange where
  minimum : Int
  maximum : Int

def AxisRange.scale (range : AxisRange) (value extent : Int) : Int :=
  if extent ≤ 1 ∨ range.maximum ≤ range.minimum then 0
  else
    let value := wrap (clamp range.minimum range.maximum value - range.minimum)
    let source := wrap (range.maximum - range.minimum)
    wrap ((value * (extent - 1) + source / 2).tdiv source)

/-! ## The decoder -/

structure TouchSlot where
  trackingId : Int := -1
  reportedId : Int := -1
  x : Int := 0
  y : Int := 0
  pressure : Int := 0
  dirty : Bool := false

/-- A frame with the number that the decoder gives it, and its time. -/
structure DecodedTouch where
  sequence : Nat
  kernelTimeNs : Nat
  frame : TouchFrame

structure TouchDecoder where
  logicalWidth : Int
  logicalHeight : Int
  xRange : AxisRange
  yRange : AxisRange
  slots : List TouchSlot
  slot : Nat
  sequence : Nat
  lastTimeNs : Nat
  selected : slot < slots.length

/-- `wrapping_add(1).max(1)`. -/
def sequenceAfter (sequence : Nat) : Nat := max ((sequence + 1) % 18446744073709551616) 1

/-- What a report makes of a slot that has changed. -/
def TouchSlot.phase (slot : TouchSlot) : Option TouchPhase :=
  if slot.reportedId ≥ 0 then
    if slot.trackingId ≥ 0 then some .move else some .up
  else if slot.trackingId ≥ 0 then some .down else none

def TouchSlot.frame (slot : TouchSlot) (phase : TouchPhase) (deviceId : Int) : TouchFrame where
  phase
  deviceId
  x := slot.x
  y := slot.y
  pressure := slot.pressure

/-- One turn of the loop of `flush`: the slot, and the frame that is made of it. -/
def TouchSlot.flush (slot : TouchSlot) : TouchSlot × Option TouchFrame :=
  if !slot.dirty then (slot, none)
  else match slot.phase with
    | none => ({ slot with dirty := false }, none)
    | some phase =>
      ({ slot with dirty := false, reportedId := slot.trackingId },
        some (slot.frame phase (if slot.trackingId ≥ 0 then slot.trackingId else slot.reportedId)))

/-- One turn of the loop of `cancel_all`. -/
def TouchSlot.cancel (slot : TouchSlot) : TouchSlot × Option TouchFrame :=
  if slot.reportedId < 0 then (slot, none)
  else ({ slot with trackingId := -1, reportedId := -1, dirty := false }, some (slot.frame .cancel slot.reportedId))

/-- The slots one after the other, and the frames that are made of them. -/
def eachSlot (turn : TouchSlot → TouchSlot × Option TouchFrame) : List TouchSlot → List TouchSlot × List TouchFrame
  | [] => ([], [])
  | slot :: rest => ((turn slot).1 :: (eachSlot turn rest).1, (turn slot).2.toList ++ (eachSlot turn rest).2)

theorem eachSlot_length (turn : TouchSlot → TouchSlot × Option TouchFrame) (slots : List TouchSlot) :
    (eachSlot turn slots).1.length = slots.length := by
  induction slots with
  | nil => rfl
  | cons slot rest ih => simp [eachSlot, ih]

/-- The frames numbered on from the last one. -/
def numbered (timeNs : Nat) : Nat → List TouchFrame → List DecodedTouch
  | _, [] => []
  | sequence, frame :: rest => ⟨sequenceAfter sequence, timeNs, frame⟩ :: numbered timeNs (sequenceAfter sequence) rest

theorem numbered_frames (timeNs sequence : Nat) (frames : List TouchFrame) :
    (numbered timeNs sequence frames).map DecodedTouch.frame = frames := by
  induction frames generalizing sequence with
  | nil => rfl
  | cons frame rest ih => simp [numbered, ih]

namespace TouchDecoder

theorem first_selected (slotCount : Nat) : 0 < (List.replicate (max slotCount 1) ({} : TouchSlot)).length := by
  rw [List.length_replicate]
  omega

def new (logicalWidth logicalHeight : Int) (xRange yRange : AxisRange) (slotCount : Nat) : TouchDecoder where
  logicalWidth
  logicalHeight
  xRange
  yRange
  slots := List.replicate (max slotCount 1) {}
  slot := 0
  sequence := 0
  lastTimeNs := 0
  selected := first_selected slotCount

variable (d : TouchDecoder)

/-- The slot that the device names, or the last one. -/
def clampSlot (slots : Nat) (value : Int) : Nat := min (max value 0).toNat (slots - 1)

def select (value : Int) : TouchDecoder :=
  { d with
    slot := clampSlot d.slots.length value
    selected := by
      have selected := d.selected
      unfold clampSlot
      omega }

/-- A change of the slot that is selected. -/
def change (update : TouchSlot → TouchSlot) : TouchDecoder :=
  { d with
    slots := d.slots.modify d.slot fun slot => { update slot with dirty := true }
    selected := by
      rw [List.length_modify]
      exact d.selected }

def sweep (turn : TouchSlot → TouchSlot × Option TouchFrame) : List DecodedTouch × TouchDecoder :=
  (numbered d.lastTimeNs d.sequence (eachSlot turn d.slots).2,
    { d with
      slots := (eachSlot turn d.slots).1
      sequence := (eachSlot turn d.slots).2.foldl (fun sequence _ => sequenceAfter sequence) d.sequence
      selected := by
        rw [eachSlot_length]
        exact d.selected })

def flush : List DecodedTouch × TouchDecoder := d.sweep TouchSlot.flush

def cancelAll : List DecodedTouch × TouchDecoder := d.sweep TouchSlot.cancel

def consume (event : RawEvent) : List DecodedTouch × TouchDecoder :=
  let d := { d with lastTimeNs := event.timeNs }
  match event.reading with
  | .dropped => d.cancelAll
  | .slot value => ([], d.select value)
  | .trackingId value => ([], d.change fun slot => { slot with trackingId := value })
  | .x value => ([], d.change fun slot => { slot with x := d.xRange.scale value d.logicalWidth })
  | .y value => ([], d.change fun slot => { slot with y := d.yRange.scale value d.logicalHeight })
  | .pressure value => ([], d.change fun slot => { slot with pressure := clamp 0 255 value })
  | .report => d.flush
  | .ignored => ([], d)

end TouchDecoder
end Remagic.Display
