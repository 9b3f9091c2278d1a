import Remagic.LiveInk
import Remagic.Runs

/-!
# The marks of a frame

What one pen frame and one flush of the live ink do to the panel worker: the
segment a frame draws, the pixels it modifies, the padding it adds to
`canonical_dirty` and the rectangle that a flush submits.
-/

namespace Remagic.Display

/-- The four bytes of a pixel. -/
def PanelBackend.pixelBytes (b : PanelBackend) (x y : Int) : List (Option UInt8) :=
  (List.range 4).map fun offset => b.pixels[y.toNat * b.stride + x.toNat * 4 + offset]?

/-- The pixels of the panel whose bytes differ. -/
def modified (before after : PanelBackend) : List (Int × Int) :=
  (span 0 before.height).flatMap fun y =>
    ((span 0 before.width).filter fun x => before.pixelBytes x y ≠ after.pixelBytes x y).map fun x => (x, y)

namespace PanelRuntime
variable (p : PanelRuntime)

/-- The frame draws a segment. -/
def draws (lease : PanelLease) (frame : PenFrame) : Bool :=
  p.penLeaseValid lease frame && (frame.phase = .down || frame.phase = .move && p.activePen)

/-- Where the segment of a frame begins, and its brush. -/
def previousPen (frame : PenFrame) : LivePenPoint :=
  let desiredRadius := liveBrushRadius frame.tool frame.pressure frame.pressureMax
  match frame.phase with
  | .move => p.lastPen.getD ⟨frame.x, frame.y, desiredRadius, frame.tool⟩
  | _ => ⟨frame.x, frame.y, desiredRadius, frame.tool⟩

def penRadius (frame : PenFrame) : Int :=
  let desiredRadius := liveBrushRadius frame.tool frame.pressure frame.pressureMax
  match frame.phase with
  | .move => liveSegmentRadius frame.tool desiredRadius (some (p.previousPen frame))
  | _ => desiredRadius

/-- The submission of a rectangle of live ink. -/
def submitLive (env : PanelEnv) (rect : Rect) : Outcome :=
  Outcome.andThen (submit env { p with liveDirty := default } rect .ink p.ink.lease (p.commitSequence env p.ink.key)
    .liveInk) fun q => (.ok (), { q with lastLiveSubmit := env.now })

end PanelRuntime

/-! ## What a flush does -/

namespace PanelRuntime
variable {p : PanelRuntime} (env : PanelEnv)

/-- The rectangle that a flush submits. -/
def liveRect (p : PanelRuntime) : Rect := p.liveDirty.clip p.backend.width p.backend.height

theorem submit_telemetry (rect : Rect) (intent : RefreshIntent) (lease : PanelLease) (sequence : Nat)
    (reason : SubmissionReason) : ∃ telemetry,
    (p.submit env rect intent lease sequence reason).2 = { p with telemetry } ∧
      telemetry.nextSubmissionSequence = p.telemetry.nextSubmissionSequence + 1 := by
  unfold submit
  cases env.marker with
  | none => exact ⟨_, rfl, rfl⟩
  | some marker => exact ⟨_, rfl, rfl⟩

/-- A submission of live ink takes the live rectangle and leaves the rest to the telemetry. -/
theorem submitLive_state (rect : Rect) : ∃ telemetry lastLiveSubmit,
    (p.submitLive env rect).2 = { p with liveDirty := default, telemetry, lastLiveSubmit } ∧
      telemetry.nextSubmissionSequence = p.telemetry.nextSubmissionSequence + 1 := by
  obtain ⟨telemetry, state, counts⟩ := submit_telemetry env (p := { p with liveDirty := default }) rect .ink p.ink.lease
    (p.commitSequence env p.ink.key) .liveInk
  unfold submitLive Outcome.andThen
  rcases submitted : submit env { p with liveDirty := default } rect .ink p.ink.lease (p.commitSequence env p.ink.key)
    .liveInk with ⟨result, q⟩
  rw [submitted] at state
  change q = _ at state
  subst state
  cases result with
  | error error => exact ⟨telemetry, p.lastLiveSubmit, rfl, counts⟩
  | ok _ => exact ⟨telemetry, env.now, rfl, counts⟩

/-- A flush waits, drops a rectangle outside the panel, or submits the live rectangle. -/
inductive Flushes (env : PanelEnv) (p : PanelRuntime) : Outcome → Prop
  | waits : Flushes env p (.ok (), p)
  | drops (outside : p.liveRect.isEmpty = true) : Flushes env p (.ok (), { p with liveDirty := default })
  | submits : Flushes env p (p.submitLive env p.liveRect)

theorem flushLive_flushes (force : Bool) : Flushes env p (p.flushLive env force) := by
  unfold flushLive
  by_cases idle : p.liveDirty.isEmpty = true ∨ (!force) = true ∧ env.now - p.lastLiveSubmit < liveSwapInterval
  · simp only [idle, if_true]
    exact .waits
  · simp only [idle, if_false]
    by_cases outside : (p.liveDirty.clip p.backend.width p.backend.height).isEmpty = true
    · simp only [outside, if_true]
      exact .drops outside
    · simp only [outside, Bool.false_eq_true, if_false]
      exact .submits

/-! ## What a frame draws -/

/-- The worker after a segment of live ink. -/
structure Drawn (p : PanelRuntime) (surface : SharedSurface) (frame : PenFrame) (q : PanelRuntime) : Prop where
  backend : q.backend = { p.backend with
    pixels := drawLine p.backend.pixels p.backend.stride p.backend.width p.backend.height
      ((p.geometryForLogical surface).logicalToPhysicalPoint (p.previousPen frame).x (p.previousPen frame).y).1
      ((p.geometryForLogical surface).logicalToPhysicalPoint (p.previousPen frame).x (p.previousPen frame).y).2
      ((p.geometryForLogical surface).logicalToPhysicalPoint frame.x frame.y).1
      ((p.geometryForLogical surface).logicalToPhysicalPoint frame.x frame.y).2 (p.penRadius frame) (penColor frame.tool) }
  liveDirty : q.liveDirty = p.liveDirty.union (lineBounds p.backend.width p.backend.height
    ((p.geometryForLogical surface).logicalToPhysicalPoint (p.previousPen frame).x (p.previousPen frame).y).1
    ((p.geometryForLogical surface).logicalToPhysicalPoint (p.previousPen frame).x (p.previousPen frame).y).2
    ((p.geometryForLogical surface).logicalToPhysicalPoint frame.x frame.y).1
    ((p.geometryForLogical surface).logicalToPhysicalPoint frame.x frame.y).2 (p.penRadius frame))
  canonicalDirty : q.canonicalDirty =
    p.canonicalDirty.union (Rect.expand ⟨frame.x, frame.y, 1, 1⟩ (saturate (p.penRadius frame + 3)))

/-- What a segment does not touch, whether there is a surface to draw for or not. -/
structure Penned (p : PanelRuntime) (frame : PenFrame) (q : PanelRuntime) : Prop where
  surfaces : q.surfaces = p.surfaces
  foreground : q.foreground = p.foreground
  ink : q.ink = p.ink
  sequence : q.telemetry.nextSubmissionSequence = p.telemetry.nextSubmissionSequence
  active : q.activePen = true
  last : q.lastPen = some ⟨frame.x, frame.y, liveBrushRadius frame.tool frame.pressure frame.pressureMax, frame.tool⟩
  settling : q.settleDeadline = none ∨ (q.settleDeadline = p.settleDeadline ∧ p.activePen = true)

theorem handlePen_penned {lease : PanelLease} {frame : PenFrame} (draws : p.draws lease frame = true) :
    Penned p frame (p.handlePen env lease frame).2 := by
  simp only [PanelRuntime.draws, Bool.and_eq_true] at draws
  obtain ⟨valid, drawn⟩ := draws
  unfold handlePen
  simp only [valid, Bool.not_true, Bool.false_eq_true, if_false]
  cases phase : frame.phase with
  | down =>
    unfold beginPen drawLiveSegment
    simp only
    split <;> exact ⟨rfl, rfl, rfl, rfl, rfl, rfl, .inl rfl⟩
  | move =>
    have active : p.activePen = true := by simpa [phase] using drawn
    simp only [active, if_true]
    unfold movePen drawLiveSegment
    simp only
    split <;> exact ⟨rfl, rfl, rfl, rfl, active, rfl, .inr ⟨rfl, active⟩⟩
  | up => simp [phase] at drawn
  | cancel => simp [phase] at drawn

theorem drawLiveSegment_visible {surface : SharedSurface} (visible : p.surface env p.ink.key = some surface)
    (tool : PenTool) (x0 y0 x1 y1 radius : Int) :
    p.drawLiveSegment env tool x0 y0 x1 y1 radius =
      let start := (p.geometryForLogical surface).logicalToPhysicalPoint x0 y0
      let stop := (p.geometryForLogical surface).logicalToPhysicalPoint x1 y1
      { p with
        backend := { p.backend with
          pixels := drawLine p.backend.pixels p.backend.stride p.backend.width p.backend.height
            start.1 start.2 stop.1 stop.2 radius (penColor tool) }
        liveDirty := p.liveDirty.union
          (lineBounds p.backend.width p.backend.height start.1 start.2 stop.1 stop.2 radius)
        canonicalDirty := p.canonicalDirty.union (Rect.expand ⟨x1, y1, 1, 1⟩ (saturate (radius + 3))) } := by
  unfold drawLiveSegment
  rw [visible]

/-- Without a surface a segment is not drawn. -/
theorem handlePen_undrawn {lease : PanelLease} {frame : PenFrame} (draws : p.draws lease frame = true)
    (hidden : p.surface env p.ink.key = none) :
    (p.handlePen env lease frame).2.backend = p.backend ∧
      (p.handlePen env lease frame).2.liveDirty = p.liveDirty ∧
      (p.handlePen env lease frame).2.canonicalDirty = p.canonicalDirty := by
  simp only [PanelRuntime.draws, Bool.and_eq_true] at draws
  obtain ⟨valid, drawn⟩ := draws
  unfold handlePen
  simp only [valid, Bool.not_true, Bool.false_eq_true, if_false]
  unfold PanelRuntime.surface at hidden
  cases phase : frame.phase with
  | down =>
    unfold beginPen drawLiveSegment PanelRuntime.surface
    simp only [hidden]
    exact ⟨trivial, trivial, trivial⟩
  | move =>
    have active : p.activePen = true := by simpa [phase] using drawn
    simp only [active, if_true]
    unfold movePen drawLiveSegment PanelRuntime.surface
    simp only [hidden]
    exact ⟨trivial, trivial, trivial⟩
  | up => simp [phase] at drawn
  | cancel => simp [phase] at drawn

theorem handlePen_drawn {lease : PanelLease} {frame : PenFrame} {surface : SharedSurface}
    (draws : p.draws lease frame = true) (visible : p.surface env p.ink.key = some surface) :
    Drawn p surface frame (p.handlePen env lease frame).2 := by
  simp only [PanelRuntime.draws, Bool.and_eq_true] at draws
  obtain ⟨valid, drawn⟩ := draws
  unfold handlePen
  simp only [valid, Bool.not_true, Bool.false_eq_true, if_false]
  cases phase : frame.phase with
  | down =>
    have previous : p.previousPen frame =
        ⟨frame.x, frame.y, liveBrushRadius frame.tool frame.pressure frame.pressureMax, frame.tool⟩ := by
      simp [previousPen, phase]
    have radius : p.penRadius frame = liveBrushRadius frame.tool frame.pressure frame.pressureMax := by
      simp [penRadius, phase]
    have segment := drawLiveSegment_visible env (p := { p with
      activePen := true
      settleDeadline := none
      settleStarted := none
      inkBeginSequence := p.commitSequence env p.ink.key
      lastPen := some ⟨frame.x, frame.y, liveBrushRadius frame.tool frame.pressure frame.pressureMax, frame.tool⟩ })
      visible frame.tool frame.x frame.y frame.x frame.y (liveBrushRadius frame.tool frame.pressure frame.pressureMax)
    simp only [beginPen, segment]
    refine ⟨?_, ?_, ?_⟩ <;> simp only [previous, radius] <;> rfl
  | move =>
    have active : p.activePen = true := by simpa [phase] using drawn
    have previous : p.previousPen frame = p.lastPen.getD
        ⟨frame.x, frame.y, liveBrushRadius frame.tool frame.pressure frame.pressureMax, frame.tool⟩ := by
      simp [previousPen, phase]
    have radius : p.penRadius frame = liveSegmentRadius frame.tool
        (liveBrushRadius frame.tool frame.pressure frame.pressureMax) (some (p.previousPen frame)) := by
      simp [penRadius, phase]
    simp only [active, if_true]
    simp only [movePen, drawLiveSegment_visible env visible]
    refine ⟨?_, ?_, ?_⟩ <;> simp only [previous, radius]
  | up => simp [phase] at drawn
  | cancel => simp [phase] at drawn

/-- A settle does nothing, waits on, or ends and gives up `canonical_dirty`. -/
inductive Settled (p : PanelRuntime) : PanelRuntime → Prop
  | early : Settled p p
  | waits (deadline : Int) (settling : p.settleDeadline.isSome = true) :
      Settled p { p with settleDeadline := some deadline }
  | ended (settling : p.settleDeadline.isSome = true) (backend : PanelBackend)
      (size : (backend.width = p.backend.width ∧ backend.height = p.backend.height) ∧ backend.stride = p.backend.stride) :
      Settled p { p with settleDeadline := none, settleStarted := none, canonicalDirty := default, backend }

theorem syncSurfaceBuffer_backend (lease : PanelLease) (rect : Rect) : ∃ backend : PanelBackend,
    p.syncSurfaceBuffer env lease rect = { p with backend } ∧
      (backend.width = p.backend.width ∧ backend.height = p.backend.height) ∧ backend.stride = p.backend.stride := by
  unfold syncSurfaceBuffer
  split
  · exact ⟨p.backend, rfl, ⟨rfl, rfl⟩, rfl⟩
  · split
    · exact ⟨p.backend, rfl, ⟨rfl, rfl⟩, rfl⟩
    · simp only
      split
      · exact ⟨p.backend, rfl, ⟨rfl, rfl⟩, rfl⟩
      · exact ⟨_, rfl, ⟨rfl, rfl⟩, rfl⟩

theorem settle_settled : Settled p (p.settle env) := by
  unfold settle
  by_cases due : (p.settleDeadline.any fun deadline => deadline ≤ env.now) = true
  · have settling : p.settleDeadline.isSome = true := by
      cases deadline : p.settleDeadline with
      | none => simp [deadline] at due
      | some _ => rfl
    simp only [due, Bool.not_true, Bool.false_eq_true, if_false]
    by_cases retries : (!p.canonicalIsNewer env && p.retryAllowed env) = true
    · simp only [retries, if_true]
      exact .waits _ settling
    · simp only [retries, Bool.false_eq_true, if_false]
      by_cases copies : (p.canonicalIsNewer env && !p.canonicalDirty.isEmpty && p.ink.enabled) = true
      · simp only [copies, if_true]
        obtain ⟨backend, same, size⟩ := syncSurfaceBuffer_backend env (p := { p with
          settleDeadline := none, settleStarted := none, canonicalDirty := default }) p.ink.lease p.canonicalDirty
        rw [same]
        exact .ended settling backend size
      · simp only [copies, Bool.false_eq_true, if_false]
        exact .ended settling p.backend ⟨⟨rfl, rfl⟩, rfl⟩
  · simp only [due, Bool.not_false, if_true]
    exact .early

end PanelRuntime

/-! ## Modified pixels -/

variable {before after : PanelBackend}

theorem mem_modified {x y : Int} :
    (x, y) ∈ modified before after ↔
    ((0 ≤ x ∧ x < before.width) ∧ 0 ≤ y ∧ y < before.height) ∧ before.pixelBytes x y ≠ after.pixelBytes x y := by
  simp only [modified, List.mem_flatMap, List.mem_map, List.mem_filter, mem_span, decide_eq_true_eq, Prod.mk.injEq]
  constructor
  · rintro ⟨row, inRows, column, ⟨inColumns, differ⟩, rfl, rfl⟩
    exact ⟨⟨inColumns, inRows⟩, differ⟩
  · rintro ⟨⟨inColumns, inRows⟩, differ⟩
    exact ⟨y, inRows, x, ⟨inColumns, differ⟩, rfl, rfl⟩

theorem modified_same (stride : after.stride = before.stride) (same : after.pixels = before.pixels) :
    modified before after = [] := by
  refine List.eq_nil_iff_forall_not_mem.mpr ?_
  rintro ⟨x, y⟩ member
  refine (mem_modified.mp member).2 ?_
  simp only [PanelBackend.pixelBytes, stride, same]

/-- Two pixels of the panel share no byte where a row holds its pixels. -/
theorem pixelByte_unique {stride i : Nat} {width x y x' y' : Int} (row : width * 4 ≤ stride)
    (column : 0 ≤ x ∧ x < width) (column' : 0 ≤ x' ∧ x' < width) (down : 0 ≤ y ∧ 0 ≤ y')
    (byte : PixelByte stride x y i) (byte' : PixelByte stride x' y' i) : x = x' ∧ y = y' := by
  obtain ⟨start, stop⟩ := byte
  obtain ⟨start', stop'⟩ := byte'
  have inRow : x.toNat * 4 + 4 ≤ stride := by omega
  have inRow' : x'.toNat * 4 + 4 ≤ stride := by omega
  have same : y.toNat = y'.toNat := by
    have first : i / stride = y.toNat := by
      rw [Nat.div_eq_iff (by omega)]
      constructor <;> omega
    have second : i / stride = y'.toNat := by
      rw [Nat.div_eq_iff (by omega)]
      constructor <;> omega
    omega
  rw [same] at start stop
  exact ⟨by omega, by omega⟩

/-- A modified pixel is one that was written. -/
theorem modified_written {pixels : Int → Int → Prop} {x y : Int}
    (only : OnlyWrites before.stride pixels before.pixels after.pixels) (stride : after.stride = before.stride)
    (row : before.width * 4 ≤ before.stride) (panel : ∀ x y, pixels x y → (0 ≤ x ∧ x < before.width) ∧ 0 ≤ y)
    (member : (x, y) ∈ modified before after) : pixels x y := by
  obtain ⟨⟨column, down, _⟩, differ⟩ := mem_modified.mp member
  by_contra unwritten
  refine differ ?_
  simp only [PanelBackend.pixelBytes, stride]
  refine List.map_congr_left fun offset within => (only _ fun x' y' written byte => ?_).symm
  have small := List.mem_range.mp within
  have here : PixelByte before.stride x y (y.toNat * before.stride + x.toNat * 4 + offset) := by
    unfold PixelByte
    omega
  obtain ⟨rfl, rfl⟩ := pixelByte_unique row column (panel x' y' written).1 ⟨down, (panel x' y' written).2⟩ here byte
  exact unwritten written

/-! ## Boxes -/

/-- The rectangle is empty or lies between the bounds. -/
def Boxed (lo right bottom : Int) (rect : Rect) : Prop :=
  rect.isEmpty = true ∨ (lo ≤ rect.x ∧ rect.x + rect.width ≤ right) ∧ lo ≤ rect.y ∧ rect.y + rect.height ≤ bottom

section
variable {lo right bottom : Int} {r other : Rect}

theorem Boxed.default : Boxed lo right bottom default := .inl rfl

/-- The bounds and their distance are `i32` values. -/
def Bounds (lo right bottom : Int) : Prop :=
  i32Min ≤ lo ∧ (right ≤ i32Max ∧ right - lo ≤ i32Max) ∧ bottom ≤ i32Max ∧ bottom - lo ≤ i32Max

instance (lo right bottom : Int) : Decidable (Bounds lo right bottom) := inferInstanceAs (Decidable (_ ∧ _))

theorem Boxed.ends (bounds : Bounds lo right bottom) (boxed : Boxed lo right bottom r) (solid : r.isEmpty = false) :
    (r.right = r.x + r.width ∧ r.bottom = r.y + r.height) ∧
      (lo ≤ r.x ∧ r.x < r.right ∧ r.right ≤ right) ∧ lo ≤ r.y ∧ r.y < r.bottom ∧ r.bottom ≤ bottom := by
  obtain ⟨low, wide, high⟩ := bounds
  obtain ⟨width, height⟩ := Rect.isEmpty_eq_false.mp solid
  rcases boxed with empty | ⟨across, down⟩
  · rw [solid] at empty
    cases empty
  · have ends : r.right = r.x + r.width := Rect.saturate_eq (by omega) (by omega)
    have lowest : r.bottom = r.y + r.height := Rect.saturate_eq (by omega) (by omega)
    omega

theorem Boxed.unionFits (bounds : Bounds lo right bottom) (boxed : Boxed lo right bottom r)
    (beside : Boxed lo right bottom other) : r.UnionFits other := by
  intro solid full
  have one := boxed.ends bounds solid
  have two := beside.ends bounds full
  obtain ⟨low, wide, high⟩ := bounds
  omega

theorem Boxed.union (bounds : Bounds lo right bottom) (boxed : Boxed lo right bottom r)
    (beside : Boxed lo right bottom other) : Boxed lo right bottom (r.union other) := by
  unfold Rect.union
  by_cases empty : r.isEmpty = true
  · rw [if_pos empty]
    exact beside
  rw [if_neg empty]
  by_cases void : other.isEmpty = true
  · rw [if_pos void]
    exact boxed
  rw [if_neg void]
  have one := boxed.ends bounds (by simpa using empty)
  have two := beside.ends bounds (by simpa using void)
  obtain ⟨low, wide, high⟩ := bounds
  have width := Rect.wrap_eq (n := max r.right other.right - min r.x other.x) (by omega) (by omega)
  have height := Rect.wrap_eq (n := max r.bottom other.bottom - min r.y other.y) (by omega) (by omega)
  refine .inr ?_
  simp only [width, height]
  omega

end

theorem clip_boxed {r : Rect} {width height : Int} (positive : 0 < width ∧ 0 < height) : Boxed 0 width height (r.clip width height) := by
  refine .inr ?_
  unfold Rect.clip clamp
  simp only
  omega

theorem lineBounds_boxed {width height : Int} (positive : 0 < width ∧ 0 < height) (x0 y0 x1 y1 radius : Int) :
    Boxed 0 width height (lineBounds width height x0 y0 x1 y1 radius) := clip_boxed positive

theorem point_mem (g : Geometry) (x y : Int) :
    0 ≤ (g.logicalToPhysicalPoint x y).1 ∧ 0 ≤ (g.logicalToPhysicalPoint x y).2 :=
  ⟨le_max_left .., le_max_left ..⟩

/-! ## Brushes and padding -/

theorem wrap_le {n : Int} (positive : 0 ≤ n) : wrap n ≤ n ∧ -2147483648 ≤ wrap n ∧ (n ≤ i32Max → wrap n = n) := by
  unfold wrap i32Max
  rw [Int.bmod_def]
  split <;> omega

/-- Whatever the pressure, the brush has a few pixels. -/
theorem liveBrushRadius_bounds (tool : PenTool) (pressure pressureMax : Int) :
    -1 ≤ liveBrushRadius tool pressure pressureMax ∧ liveBrushRadius tool pressure pressureMax ≤ 22 := by
  cases tool with
  | eraser => simp [liveBrushRadius, magicPaperEraserRadius]
  | pen =>
    simp only [liveBrushRadius, magicPaperPenMinRadius, magicPaperPenPressureSpan]
    generalize scale : max pressureMax 1 = most
    generalize pressed : clamp 0 most pressure = force
    have range : 0 ≤ force ∧ force ≤ most ∧ 1 ≤ most := by
      unfold clamp at pressed
      omega
    obtain ⟨upper, lower, exact⟩ := wrap_le (n := force * 3) (by omega)
    unfold i32Max at exact
    have least : -3 ≤ (wrap (force * 3)).tdiv most := by
      rcases le_total 0 (wrap (force * 3)) with positive | negative
      · have := Int.tdiv_nonneg positive (by omega : 0 ≤ most)
        omega
      · -- The product has wrapped, so that the scale is large.
        have : (-wrap (force * 3)) / most ≤ 3 := Int.ediv_le_of_le_mul (by omega) (by omega)
        rw [← Int.neg_neg (wrap (force * 3)), Int.neg_tdiv, Int.tdiv_eq_ediv_of_nonneg (by omega)]
        omega
    have most : (wrap (force * 3)).tdiv most ≤ 3 := by
      rcases le_total 0 (wrap (force * 3)) with positive | negative
      · rw [Int.tdiv_eq_ediv_of_nonneg positive]
        exact Int.ediv_le_of_le_mul (by omega) (by omega)
      · rw [← Int.neg_neg (wrap (force * 3)), Int.neg_tdiv, Int.tdiv_eq_ediv_of_nonneg (by omega)]
        have := Int.ediv_nonneg (by omega : 0 ≤ -wrap (force * 3)) (by omega : 0 ≤ most)
        omega
    omega

/-- The padding that a frame adds to `canonical_dirty`. -/
theorem padding (x y radius : Int) (canvas : (0 ≤ x ∧ x < 8192) ∧ 0 ≤ y ∧ y < 8192) (brush : -1 ≤ radius ∧ radius ≤ 22) :
    Boxed (-25) 8217 8217 (Rect.expand ⟨x, y, 1, 1⟩ (saturate (radius + 3))) ∧
      Pads (Rect.expand ⟨x, y, 1, 1⟩ (saturate (radius + 3))) x y radius := by
  have low : i32Min = -2147483648 := rfl
  have high : i32Max = 2147483647 := rfl
  have solid : (⟨x, y, 1, 1⟩ : Rect).isEmpty = false := rfl
  have amount : saturate (radius + 3) = radius + 3 := Rect.saturate_eq (by omega) (by omega)
  have same : Rect.expand ⟨x, y, 1, 1⟩ (saturate (radius + 3)) =
      ⟨x - (radius + 3), y - (radius + 3), 1 + (radius + 3) * 2, 1 + (radius + 3) * 2⟩ := by
    unfold Rect.expand
    simp only [solid, Bool.false_eq_true, if_false, amount]
    rw [Rect.saturate_eq (by omega) (by omega), Rect.saturate_eq (by omega) (by omega),
      Rect.saturate_eq (n := (radius + 3) * 2) (by omega) (by omega), Rect.saturate_eq (by omega) (by omega)]
  rw [same]
  have bounds : Bounds (-25) 8217 8217 := by decide
  have ends := Boxed.ends (r := ⟨x - (radius + 3), y - (radius + 3), 1 + (radius + 3) * 2, 1 + (radius + 3) * 2⟩)
    bounds (.inr (by simp only; omega)) (Rect.isEmpty_eq_false.mpr (by simp only; omega))
  refine ⟨.inr (by simp only; omega), ?_, ?_⟩
  · refine ⟨Rect.isEmpty_eq_false.mpr (by simp only; omega), ?_⟩
    simp only at ends ⊢
    omega
  · refine ⟨Rect.isEmpty_eq_false.mpr (by simp only; omega), ?_⟩
    simp only at ends ⊢
    omega

/-! ## The live rectangle -/

namespace PanelRuntime
variable {p : PanelRuntime} (env : PanelEnv)

/-- The live rectangle keeps all of its pixels on the panel. -/
theorem liveRect_covers (panel : p.backend.width ≤ i32Max ∧ p.backend.height ≤ i32Max)
    (boxed : Boxed 0 p.backend.width p.backend.height p.liveDirty) {x y : Int} (covers : p.liveDirty.Covers x y) :
    p.liveRect.Covers x y := by
  have positive := p.backend.positive
  have bounds : Bounds 0 p.backend.width p.backend.height := by
    unfold Bounds i32Min
    omega
  have ends := boxed.ends bounds covers.1
  obtain ⟨_, left, right, top, bottom⟩ := covers
  exact (Rect.clip_covers panel.1 panel.2).mpr ⟨⟨left, right, by omega, by omega⟩, top, bottom, by omega, by omega⟩

/-- A flush that does not submit keeps what is unsent in the live rectangle. -/
theorem flushLive_keeps (unsent : List (Int × Int)) (force : Bool)
    (panel : p.backend.width ≤ i32Max ∧ p.backend.height ≤ i32Max)
    (boxed : Boxed 0 p.backend.width p.backend.height p.liveDirty)
    (waiting : ∀ pixel ∈ unsent, p.liveDirty.Covers pixel.1 pixel.2) : ∃ telemetry lastLiveSubmit liveDirty,
      (p.flushLive env force).2 = { p with liveDirty, telemetry, lastLiveSubmit } ∧
      Boxed 0 p.backend.width p.backend.height liveDirty ∧
      (telemetry.nextSubmissionSequence = p.telemetry.nextSubmissionSequence →
        ∀ pixel ∈ unsent, liveDirty.Covers pixel.1 pixel.2) := by
  have flushes := flushLive_flushes env (p := p) force
  generalize p.flushLive env force = outcome at flushes
  cases flushes with
  | waits => exact ⟨p.telemetry, p.lastLiveSubmit, p.liveDirty, rfl, boxed, fun _ => waiting⟩
  | drops outside =>
    refine ⟨p.telemetry, p.lastLiveSubmit, default, rfl, Boxed.default, fun _ pixel member => ?_⟩
    have shown := liveRect_covers panel boxed (waiting pixel member)
    rw [shown.1] at outside
    cases outside
  | submits =>
    obtain ⟨telemetry, lastLiveSubmit, same, counts⟩ := submitLive_state env (p := p) p.liveRect
    refine ⟨telemetry, lastLiveSubmit, default, same, Boxed.default, fun silent => ?_⟩
    omega

end PanelRuntime

/-! ## An eraser's mark -/

def Wiped (i : Nat) (bytes : Array UInt8) : Prop := bytes[i]? = some 0xff

theorem writePixel_size (bytes : Array UInt8) (index : Nat) (color : Vector UInt8 4) :
    (writePixel bytes index color).size = bytes.size := by
  unfold writePixel
  split
  · simp only [Array.size_setIfInBounds]
  · rfl

variable {bytes : Array UInt8}

theorem set_wiped {i : Nat} (wiped : Wiped i bytes) (j : Nat) : Wiped i (bytes.setIfInBounds j 0xff) := by
  obtain ⟨inside, _⟩ := Array.getElem?_eq_some_iff.mp wiped
  unfold Wiped
  rw [Array.getElem?_setIfInBounds]
  split
  · next same =>
    subst same
    rw [if_pos inside]
  · exact wiped

/-- What the eraser has wiped stays wiped. -/
theorem writePixel_wiped {i : Nat} (wiped : Wiped i bytes) (index : Nat) :
    Wiped i (writePixel bytes index (PanelRuntime.penColor .eraser)) := by
  unfold writePixel
  split
  · exact set_wiped (set_wiped (set_wiped (set_wiped wiped _) _) _) _
  · exact wiped

theorem writePixel_wipes {index : Nat} (inside : index + 3 < bytes.size) :
    Wiped index (writePixel bytes index (PanelRuntime.penColor .eraser)) := by
  have first : Wiped index (bytes.setIfInBounds index 0xff) := by
    unfold Wiped
    rw [Array.getElem?_setIfInBounds, if_pos rfl, if_pos (by omega)]
  unfold writePixel
  rw [if_pos inside]
  exact set_wiped (set_wiped (set_wiped first _) _) _

section
variable {stride : Nat} {width height x y radius : Int} {color : Vector UInt8 4}

/-- One turn of `draw_disc`. -/
def discTurn (stride : Nat) (width height x y radius : Int) (color : Vector UInt8 4) (dy : Int) (pixels : Array UInt8)
    (dx : Int) : Array UInt8 :=
  if dx * dx + dy * dy > radius * radius then pixels
  else
    let px := x + dx
    let py := y + dy
    if px < 0 ∨ py < 0 ∨ px ≥ width ∨ py ≥ height then pixels
    else writePixel pixels (py.toNat * stride + px.toNat * 4) color

theorem discTurn_keeps (Keeps : Array UInt8 → Prop) (each : ∀ bytes index, Keeps bytes → Keeps (writePixel bytes index color))
    (dy : Int) (bytes : Array UInt8) (dx : Int) (kept : Keeps bytes) :
    Keeps (discTurn stride width height x y radius color dy bytes dx) := by
  unfold discTurn
  split
  · exact kept
  · simp only
    split
    · exact kept
    · exact each bytes _ kept

theorem discRow_keeps (Keeps : Array UInt8 → Prop) (each : ∀ bytes index, Keeps bytes → Keeps (writePixel bytes index color))
    (bytes : Array UInt8) (dy : Int) (kept : Keeps bytes) :
    Keeps ((span (-radius) (radius + 1)).foldl (discTurn stride width height x y radius color dy) bytes) :=
  Runs.run_invariant (discTurn_keeps Keeps each dy) _ kept

theorem drawDisc_keeps (Keeps : Array UInt8 → Prop)
    (each : ∀ bytes index, Keeps bytes → Keeps (writePixel bytes index color)) (kept : Keeps bytes) :
    Keeps (drawDisc bytes stride width height x y radius color) :=
  Runs.run_invariant (discRow_keeps Keeps each) _ kept

/-- The eraser wipes the left end of its disc. -/
theorem drawDisc_wipes (positive : 0 ≤ radius) (column : 0 ≤ x - radius ∧ x - radius < width) (row : 0 ≤ y ∧ y < height)
    (inside : y.toNat * stride + (x - radius).toNat * 4 + 3 < bytes.size) :
    Wiped (y.toNat * stride + (x - radius).toNat * 4)
      (drawDisc bytes stride width height x y radius (PanelRuntime.penColor .eraser)) := by
  have size : ∀ (after : Array UInt8) index, after.size = bytes.size →
      (writePixel after index (PanelRuntime.penColor .eraser)).size = bytes.size := by
    intro after index same
    rw [writePixel_size, same]
  have wiped : ∀ after index, Wiped (y.toNat * stride + (x - radius).toNat * 4) after →
      Wiped (y.toNat * stride + (x - radius).toNat * 4) (writePixel after index (PanelRuntime.penColor .eraser)) :=
    fun after index wiped => writePixel_wiped wiped index
  refine Runs.run_reaches (fun after => after.size = bytes.size) (Wiped (y.toNat * stride + (x - radius).toNat * 4)) 0
    (discRow_keeps _ size) (discRow_keeps _ wiped) ?_ (mem_span.mpr (by omega)) rfl
  intro after same
  refine Runs.run_reaches (fun after => after.size = bytes.size) (Wiped (y.toNat * stride + (x - radius).toNat * 4))
    (-radius) (discTurn_keeps _ size 0) (discTurn_keeps _ wiped 0) ?_ (mem_span.mpr (by omega)) same
  intro after same
  have round : ¬-radius * -radius + 0 * 0 > radius * radius := by
    rw [Int.neg_mul_neg]
    omega
  have panel : ¬(x - radius < 0 ∨ y < 0 ∨ x - radius ≥ width ∨ y ≥ height) := by omega
  simp only [discTurn, round, panel, if_false, Int.add_zero, ← Int.sub_eq_add_neg]
  exact writePixel_wipes (by omega)

/-- A line of the eraser wipes the left end of its first disc. -/
theorem drawLine_wipes {x0 y0 x1 y1 : Int} {i : Nat} (positive : 0 ≤ radius)
    (column : 0 ≤ x0 - radius ∧ x0 - radius < width) (row : 0 ≤ y0 ∧ y0 < height)
    (byte : i = y0.toNat * stride + (x0 - radius).toNat * 4) (inside : i + 3 < bytes.size) :
    Wiped i (drawLine bytes stride width height x0 y0 x1 y1 radius (PanelRuntime.penColor .eraser)) := by
  subst byte
  refine Runs.run_reaches (fun after => after.size = bytes.size) (Wiped (y0.toNat * stride + (x0 - radius).toNat * 4)) 0
    ?_ ?_ ?_ (mem_span.mpr (by omega)) rfl
  · intro after step same
    exact drawDisc_keeps (fun pixels => pixels.size = bytes.size)
      (fun pixels index kept => (writePixel_size pixels index _).trans kept) same
  · intro after step wiped
    exact drawDisc_keeps (Wiped _) (fun pixels index kept => writePixel_wiped kept index) wiped
  · intro after same
    have start : ∀ d steps : Int, (wrap (d * 0)).tdiv steps = 0 := by
      intro d steps
      rw [Int.mul_zero, show wrap 0 = 0 from rfl, Int.zero_tdiv]
    simp only [start, Int.add_zero]
    exact drawDisc_wipes positive column row (by omega)

end

end Remagic.Display
