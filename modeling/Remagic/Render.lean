import Remagic.Geometry

/-!
# Pixels

Shared application surfaces, the copy of a surface rectangle into the panel
framebuffer and the drawing of live ink over it. Pixels are bytes of an array
addressed as the source addresses them.
-/

namespace Remagic.Display

inductive PixelFormat where
  | rgb565 | rgb888 | rgba8888
deriving DecidableEq, Repr

def PixelFormat.bytesPerPixel : PixelFormat → Nat
  | .rgb565 => 2
  | .rgb888 => 3
  | .rgba8888 => 4

/-- A framebuffer shared with one application. The client writes its bytes; the
    host advances the commit sequence and stores the refresh mode. `create`
    checks the dimensions. -/
structure SharedSurface where
  key : Int
  width : Int
  height : Int
  positive : 0 < width ∧ 0 < height
  bounded : width ≤ 8192 ∧ height ≤ 8192
  stride : Nat
  format : PixelFormat
  bytes : Array UInt8
  refreshMode : Int
  commitSequence : Nat

def SharedSurface.fullRect (surface : SharedSurface) : Rect := ⟨0, 0, surface.width, surface.height⟩

def refreshModeUfast : Int := 0
def refreshModeFast : Int := 1
def refreshModeAnimate : Int := 2
def refreshModeContent : Int := 3
def refreshModeUi : Int := 4

inductive PenPhase where
  | down | move | up | cancel
deriving DecidableEq, Repr

inductive PenTool where
  | pen | eraser
deriving DecidableEq, Repr

structure PenFrame where
  phase : PenPhase
  tool : PenTool
  x : Int
  y : Int
  pressure : Int
  pressureMax : Int
deriving DecidableEq, Repr

structure LivePenPoint where
  x : Int
  y : Int
  radius : Int
  tool : PenTool
deriving DecidableEq, Repr

def magicPaperPenMinRadius : Int := 2
def magicPaperPenPressureSpan : Int := 3
def magicPaperEraserRadius : Int := 22

def liveBrushRadius (tool : PenTool) (pressure pressureMax : Int) : Int :=
  match tool with
  | .pen =>
    let pressureMax := max pressureMax 1
    magicPaperPenMinRadius +
      (wrap (clamp 0 pressureMax pressure * magicPaperPenPressureSpan)).tdiv pressureMax
  | .eraser => magicPaperEraserRadius

def liveSegmentRadius (tool : PenTool) (desiredRadius : Int) (previous : Option LivePenPoint) : Int :=
  if tool ≠ .pen then desiredRadius
  else
    match previous with
    | some point => if point.tool = .pen then min desiredRadius (saturate (point.radius + 1)) else desiredRadius
    | none => desiredRadius

def pointInside (rect : Rect) (x y : Int) : Bool :=
  rect.x ≤ x && rect.y ≤ y && x < rect.right && y < rect.bottom

/-- The FNV hash of every 32nd byte of every 16th row of a rectangle. -/
def sampledSignature (pixels : Array UInt8) (stride : Nat) (rect : Rect) : UInt64 :=
  let rows := (span (max rect.y 0) (max (saturate (rect.y + rect.height)) rect.y)).filter
    fun y => (y - max rect.y 0) % 16 = 0
  let hash := rows.foldl (fun hash y =>
    let start := y.toNat * stride + (max rect.x 0).toNat * 4
    let stop := min (start + (max rect.width 0).toNat * 4) pixels.size
    ((List.range (stop - start)).filter fun offset => offset % 32 = 0).foldl (fun hash offset =>
      (hash ^^^ (pixels.getD (start + offset) 0).toUInt64) * 0x100000001b3) hash) 0xcbf29ce484222325
  hash ^^^ (UInt64.ofInt rect.width <<< 32) ^^^ UInt64.ofInt rect.height

/-- The pixel as blue, green, red and alpha. -/
def decodePixel (format : PixelFormat) (source : Array UInt8) (index : Nat) : Vector UInt8 4 :=
  let byte := fun offset : Nat => source.getD (index + offset) 0
  match format with
  | .rgb565 =>
    let value := (byte 0).toNat + (byte 1).toNat * 256
    let r := value / 2048 % 32 * 255 / 31
    let g := value / 32 % 64 * 255 / 63
    let b := value % 32 * 255 / 31
    #v[UInt8.ofNat b, UInt8.ofNat g, UInt8.ofNat r, 0xff]
  | .rgb888 => #v[byte 2, byte 1, byte 0, 0xff]
  | .rgba8888 => #v[byte 2, byte 1, byte 0, byte 3]

/-- Write the four bytes of a pixel, when all of them are inside the buffer. -/
def writePixel (pixels : Array UInt8) (index : Nat) (color : Vector UInt8 4) : Array UInt8 :=
  if index + 3 < pixels.size then
    (((pixels.setIfInBounds index color[0]).setIfInBounds (index + 1) color[1]).setIfInBounds
      (index + 2) color[2]).setIfInBounds (index + 3) color[3]
  else pixels

def copySurfaceRect (surface : SharedSurface) (destination : Array UInt8) (destinationStride : Nat)
    (geometry : Geometry) (physicalRect : Rect) : Array UInt8 :=
  (span physicalRect.y physicalRect.bottom).foldl (fun pixels py =>
    (span physicalRect.x physicalRect.right).foldl (fun pixels px =>
      let (sx, sy) := geometry.physicalToLogicalPoint px py
      let src := sy.toNat * surface.stride + sx.toNat * surface.format.bytesPerPixel
      let dst := py.toNat * destinationStride + px.toNat * 4
      writePixel pixels dst (decodePixel surface.format surface.bytes src)) pixels) destination

def drawDisc (pixels : Array UInt8) (stride : Nat) (width height x y radius : Int) (color : Vector UInt8 4) :
    Array UInt8 :=
  (span (-radius) (radius + 1)).foldl (fun pixels dy =>
    (span (-radius) (radius + 1)).foldl (fun pixels dx =>
      if dx * dx + dy * dy > radius * radius then pixels
      else
        let px := x + dx
        let py := y + dy
        if px < 0 ∨ py < 0 ∨ px ≥ width ∨ py ≥ height then pixels
        else writePixel pixels (py.toNat * stride + px.toNat * 4) color) pixels) pixels

/-- The pixels that `draw_line` leaves. -/
def drawLine (pixels : Array UInt8) (stride : Nat) (width height x0 y0 x1 y1 radius : Int)
    (color : Vector UInt8 4) : Array UInt8 :=
  let steps := max (max (x1 - x0).natAbs (y1 - y0).natAbs : Int) 1
  (span 0 (steps + 1)).foldl (fun pixels step =>
    let x := x0 + (wrap ((x1 - x0) * step)).tdiv steps
    let y := y0 + (wrap ((y1 - y0) * step)).tdiv steps
    drawDisc pixels stride width height x y radius color) pixels

/-- The rectangle that `draw_line` reports. -/
def lineBounds (width height x0 y0 x1 y1 radius : Int) : Rect :=
  Rect.clip ⟨min x0 x1 - radius, min y0 y1 - radius, (x1 - x0).natAbs + radius * 2 + 1,
    (y1 - y0).natAbs + radius * 2 + 1⟩
    width height

end Remagic.Display
