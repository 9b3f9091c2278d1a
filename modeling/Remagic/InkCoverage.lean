import Remagic.InkMarks
import Remagic.PanelDamage

/-!
# What a stroke leaves to the settle

Live ink marks the framebuffer at once, and the panel shows the mark when the
live rectangle is submitted. The settle later redraws the canonical rectangle
from the application's own pixels. A run of a stroke keeps beside the worker
which pixels live ink has modified since, and compares them with both rectangles.
-/

namespace Remagic.Display

/-- A stroke: the worker, the brush that the last point was drawn with, and the
    pixels that live ink modified since the last settle and the last submission. -/
structure Stroke where
  screen : Screen
  reach : Int
  touched : List (Int × Int)
  unsent : List (Int × Int)

inductive StrokeEvent where
  | client (shmKey : Nat) (bytes : Array UInt8) (refreshMode : Int) (commits : Bool)
  | pen (lease : PanelLease) (frame : PenFrame) (now : Int) (marker : Option Nat)
  | flush (now : Int) (marker : Option Nat)

def StrokeEvent.onScreen : StrokeEvent → ScreenEvent
  | .client shmKey bytes refreshMode commits => .client shmKey bytes refreshMode commits
  | .pen lease frame now marker => .command (.pen lease frame) now marker
  | .flush now marker => .flushDeadlines now marker

namespace Stroke

/-- A stroke begins on a worker whose ink has been reset, as each configuration of ink resets it. -/
def start (shm : Nat → SharedSurface) (p : PanelRuntime) : Stroke := ⟨⟨shm, p.abortInk, [], false⟩, 0, [], []⟩

variable (s : Stroke)

def panel : PanelRuntime := s.screen.panel

/-- The surface that ink is configured for. -/
def surface : Option SharedSurface := (s.panel.surfaces s.panel.ink.key).map s.screen.shm

def next (event : StrokeEvent) : Stroke :=
  let screen := s.screen.next event.onScreen
  let submitted : Bool := screen.panel.telemetry.nextSubmissionSequence ≠ s.panel.telemetry.nextSubmissionSequence
  match event with
  | .client .. => { s with screen }
  | .pen lease frame _ _ =>
    let inked := modified s.panel.backend screen.panel.backend
    -- A cancelled stroke is never settled.
    if s.panel.penLeaseValid lease frame && frame.phase = .cancel then
      { s with screen, touched := [], unsent := [] }
    else
      { screen
        reach := if s.panel.draws lease frame then s.panel.penRadius frame else s.reach
        touched := s.touched ++ inked
        unsent := if submitted then [] else s.unsent ++ inked }
  | .flush _ _ =>
    let settled : Bool := s.panel.settleDeadline.isSome && screen.panel.settleDeadline.isNone
    { s with
      screen
      touched := if settled then [] else s.touched
      unsent := if submitted then [] else s.unsent }

/-- The frame's point lies on the canvas, and its segment, drawn with a brush of
    physical pixels, is spanned by the logical padding of both of its ends. -/
def Spares : StrokeEvent → Prop
  | .pen lease frame _ _ =>
    s.panel.draws lease frame = true → ∀ surface ∈ s.surface,
      let geometry := s.panel.geometryForLogical surface
      let previous := s.panel.previousPen frame
      let radius := s.panel.penRadius frame
      let (px0, py0) := geometry.logicalToPhysicalPoint previous.x previous.y
      let (px1, py1) := geometry.logicalToPhysicalPoint frame.x frame.y
      OnCanvas geometry frame.x frame.y ∧ Spans geometry radius radius ∧
        (frame.phase = .move → Spans geometry s.reach radius) ∧
        lineSteps px0 py0 px1 py1 * lineSteps px0 py0 px1 py1 ≤ i32Max
  | _ => True

instance : (event : StrokeEvent) → Decidable (s.Spares event)
  | .pen _ _ _ _ => inferInstanceAs (Decidable (_ → ∀ surface ∈ s.surface, _ ∧ _ ∧ _ ∧ _))
  | .client _ _ _ _ => isTrue trivial
  | .flush _ _ => isTrue trivial

/-- Every modified pixel lies in the rectangle of the next submission, and in the one
    that the settle redraws from the surface. -/
structure Covered (s : Stroke) : Prop where
  live : ∀ now marker force,
    let env := s.screen.env now marker
    (s.panel.flushLive env force).2.telemetry.nextSubmissionSequence ≠ s.panel.telemetry.nextSubmissionSequence →
      ∃ rect, s.panel.flushLive env force = s.panel.submitLive env rect ∧
        ∀ pixel ∈ s.unsent, rect.Covers pixel.1 pixel.2
  canonical : ∀ pixel ∈ s.touched, ∃ surface ∈ s.surface,
    ((s.panel.geometryForLogical surface).logicalToPhysicalRect s.panel.canonicalDirty).Covers pixel.1 pixel.2
  settle : s.touched ≠ [] → ∀ now marker,
    let env := s.screen.env now marker
    (s.panel.settleDeadline.any fun deadline => deadline ≤ now) = true → s.panel.canonicalIsNewer env = true →
      ∃ surface ∈ s.surface, ∃ rect,
        (s.panel.settle env).backend.pixels = copySurfaceRect surface s.panel.backend.pixels s.panel.backend.stride
          (s.panel.geometryForLogical surface) rect ∧
        ∀ pixel ∈ s.touched, rect.Covers pixel.1 pixel.2

end Stroke

/-! ## What a stroke keeps -/

namespace Stroke

/-- The mapping from the ink's surface to the panel. -/
def canvas (s : Stroke) : Option Geometry := s.surface.map s.panel.geometryForLogical

/-- The marks of live ink are within both rectangles, and the end of the stroke is padded. -/
structure Traced (s : Stroke) : Prop where
  panel : s.panel.backend.width ≤ i32Max ∧ s.panel.backend.height ≤ i32Max
  row : s.panel.backend.width * 4 ≤ s.panel.backend.stride
  settling : s.panel.settleDeadline.isSome = true → s.panel.activePen = false
  liveBox : Boxed 0 s.panel.backend.width s.panel.backend.height s.panel.liveDirty
  canonicalBox : Boxed (-25) 8217 8217 s.panel.canonicalDirty
  tail : s.panel.activePen = true → ∀ g ∈ s.canvas, ∃ last, s.panel.lastPen = some last ∧
    (-1 ≤ last.radius ∧ last.radius ≤ 22) ∧ OnCanvas g last.x last.y ∧ Pads s.panel.canonicalDirty last.x last.y s.reach
  ready : s.touched ≠ [] → s.panel.ink.enabled = true ∧ s.panel.foreground = some s.panel.ink.lease
  touched : ∀ pixel ∈ s.touched, ∃ g ∈ s.canvas, Reached g s.panel.canonicalDirty pixel.1 pixel.2
  unsent : ∀ pixel ∈ s.unsent, s.panel.liveDirty.Covers pixel.1 pixel.2

variable {s : Stroke} {g : Geometry}

theorem start_traced {shm : Nat → SharedSurface} {p : PanelRuntime}
    (panel : p.backend.width ≤ i32Max ∧ p.backend.height ≤ i32Max)
    (row : p.backend.width * 4 ≤ p.backend.stride) : (start shm p).Traced where
  panel := panel
  row := row
  settling := by simp [start, Stroke.panel, PanelRuntime.abortInk]
  liveBox := Boxed.default
  canonicalBox := Boxed.default
  tail := by simp [start, Stroke.panel, PanelRuntime.abortInk]
  ready := by simp [start]
  touched := by simp [start]
  unsent := by simp [start]

theorem canvas_fits (panel : s.panel.backend.width ≤ i32Max ∧ s.panel.backend.height ≤ i32Max) (shown : g ∈ s.canvas) :
    g.Fits ∧ g.logicalWidth ≤ 8192 ∧ g.logicalHeight ≤ 8192 := by
  obtain ⟨surface, _, rfl⟩ := Option.map_eq_some_iff.mp shown
  have bounded := surface.bounded
  have wide : surface.width ≤ i32Max := bounded.1.trans (by decide)
  have high : surface.height ≤ i32Max := bounded.2.trans (by decide)
  exact ⟨⟨⟨wide, high⟩, panel⟩, bounded⟩

/-- What a client writes keeps the size of its surface. -/
theorem client_canvas (shmKey : Nat) (bytes : Array UInt8) (refreshMode : Int) (commits : Bool) :
    (s.next (.client shmKey bytes refreshMode commits)).canvas = s.canvas := by
  unfold canvas surface
  cases registered : s.panel.surfaces s.panel.ink.key with
  | none =>
    have none : (s.next (.client shmKey bytes refreshMode commits)).panel.surfaces s.panel.ink.key = none := registered
    have key : (s.next (.client shmKey bytes refreshMode commits)).panel.ink.key = s.panel.ink.key := rfl
    rw [key, none]
    rfl
  | some held =>
    have same : (s.next (.client shmKey bytes refreshMode commits)).panel = s.panel := rfl
    rw [same, registered]
    simp only [Option.map_some, Option.some.injEq]
    by_cases written : held = shmKey
    · subst written
      simp [next, StrokeEvent.onScreen, Screen.next, PanelRuntime.geometryForLogical]
    · simp [next, StrokeEvent.onScreen, Screen.next, Function.update_of_ne written]

theorem client_traced (traced : s.Traced) (shmKey : Nat) (bytes : Array UInt8) (refreshMode : Int) (commits : Bool) :
    (s.next (.client shmKey bytes refreshMode commits)).Traced where
  panel := traced.panel
  row := traced.row
  settling := traced.settling
  liveBox := traced.liveBox
  canonicalBox := traced.canonicalBox
  tail := by
    rw [client_canvas]
    exact traced.tail
  ready := traced.ready
  touched := by
    rw [client_canvas]
    exact traced.touched
  unsent := traced.unsent

section
variable {lease : PanelLease} {frame : PenFrame} {now : Int} {marker : Option Nat}

theorem draws_lasting (draws : s.panel.draws lease frame = true) :
    (s.panel.penLeaseValid lease frame && frame.phase = .cancel) = false := by
  simp only [PanelRuntime.draws, Bool.and_eq_true] at draws
  cases phase : frame.phase <;> simp_all

theorem draws_lease (draws : s.panel.draws lease frame = true) :
    s.panel.ink.enabled = true ∧ s.panel.foreground = some s.panel.ink.lease := by
  simp only [PanelRuntime.draws, PanelRuntime.penLeaseValid, Bool.and_eq_true, decide_eq_true_eq] at draws
  obtain ⟨⟨⟨⟨enabled, visible⟩, ours⟩, _⟩, _⟩ := draws
  exact ⟨enabled, ours ▸ visible⟩

/-- The stroke after a frame that draws. -/
theorem next_draws (draws : s.panel.draws lease frame = true) :
    s.next (.pen lease frame now marker) =
      { screen := s.screen.next (.command (.pen lease frame) now marker)
        reach := s.panel.penRadius frame
        touched := s.touched ++ modified s.panel.backend (s.panel.handlePen (s.screen.env now marker) lease frame).2.backend
        unsent := s.unsent ++ modified s.panel.backend (s.panel.handlePen (s.screen.env now marker) lease frame).2.backend } := by
  have penned := PanelRuntime.handlePen_penned (s.screen.env now marker) draws
  have silent : (s.screen.next (.command (.pen lease frame) now marker)).panel.telemetry.nextSubmissionSequence =
      s.panel.telemetry.nextSubmissionSequence := penned.sequence
  simp only [next, StrokeEvent.onScreen, draws_lasting draws, silent, draws, Bool.false_eq_true, if_false, if_true,
    ne_eq, not_true_eq_false, decide_false]
  rfl

theorem penRadius_bounds (traced : s.Traced) (draws : s.panel.draws lease frame = true) (shown : g ∈ s.canvas) :
    -1 ≤ s.panel.penRadius frame ∧ s.panel.penRadius frame ≤ 22 := by
  have desired := liveBrushRadius_bounds frame.tool frame.pressure frame.pressureMax
  simp only [PanelRuntime.draws, Bool.and_eq_true] at draws
  obtain ⟨_, drawn⟩ := draws
  cases phase : frame.phase with
  | move =>
    have active : s.panel.activePen = true := by simpa [phase] using drawn
    obtain ⟨last, held, brush, _⟩ := traced.tail active g shown
    have grown : saturate (last.radius + 1) = last.radius + 1 :=
      Rect.saturate_eq (by unfold i32Min; omega) (by unfold i32Max; omega)
    simp only [PanelRuntime.penRadius, PanelRuntime.previousPen, phase, held, Option.getD_some, liveSegmentRadius, grown]
    split
    · exact desired
    · split <;> omega
  | _ => simpa [PanelRuntime.penRadius, phase] using desired

/-- What the condition says of a segment that is drawn. -/
theorem Spares.segment (spares : s.Spares (.pen lease frame now marker)) (draws : s.panel.draws lease frame = true)
    {surface : SharedSurface} (shown : s.surface = some surface) :
    let g := s.panel.geometryForLogical surface
    let start := g.logicalToPhysicalPoint (s.panel.previousPen frame).x (s.panel.previousPen frame).y
    let stop := g.logicalToPhysicalPoint frame.x frame.y
    OnCanvas g frame.x frame.y ∧ Spans g (s.panel.penRadius frame) (s.panel.penRadius frame) ∧
      (frame.phase = .move → Spans g s.reach (s.panel.penRadius frame)) ∧
      lineSteps start.1 start.2 stop.1 stop.2 * lineSteps start.1 start.2 stop.1 stop.2 ≤ i32Max :=
  spares draws surface shown

/-- Where the segment begins: at the frame's own point, or at the padded end of the stroke. -/
theorem previous_padded (traced : s.Traced) (draws : s.panel.draws lease frame = true) (shown : g ∈ s.canvas)
    (inside : OnCanvas g frame.x frame.y) {canonical : Rect}
    (padded : Pads canonical frame.x frame.y (s.panel.penRadius frame))
    (spans : Spans g (s.panel.penRadius frame) (s.panel.penRadius frame))
    (follows : frame.phase = .move → Spans g s.reach (s.panel.penRadius frame))
    (grown : ∀ x y, s.panel.canonicalDirty.Covers x y → canonical.Covers x y) :
    OnCanvas g (s.panel.previousPen frame).x (s.panel.previousPen frame).y ∧
      ∃ reach, Pads canonical (s.panel.previousPen frame).x (s.panel.previousPen frame).y reach ∧
        Spans g reach (s.panel.penRadius frame) := by
  simp only [PanelRuntime.draws, Bool.and_eq_true] at draws
  obtain ⟨_, drawn⟩ := draws
  cases phase : frame.phase with
  | move =>
    have active : s.panel.activePen = true := by simpa [phase] using drawn
    obtain ⟨last, held, _, canvas, pads⟩ := traced.tail active g shown
    have previous : s.panel.previousPen frame = last := by simp [PanelRuntime.previousPen, phase, held]
    rw [previous]
    exact ⟨canvas, s.reach, ⟨grown _ _ pads.1, grown _ _ pads.2⟩, follows phase⟩
  | _ =>
    have previous : (s.panel.previousPen frame).x = frame.x ∧ (s.panel.previousPen frame).y = frame.y := by
      simp [PanelRuntime.previousPen, phase]
    rw [previous.1, previous.2]
    exact ⟨inside, _, padded, spans⟩

/-- A segment's marks lie in the live rectangle and are reached by the canonical one. -/
structure Marks (s : Stroke) (frame : PenFrame) (g : Geometry) (q : PanelRuntime) : Prop where
  size : q.backend.width = s.panel.backend.width ∧ q.backend.height = s.panel.backend.height ∧
    q.backend.stride = s.panel.backend.stride
  inked : ∀ pixel ∈ modified s.panel.backend q.backend,
    Reached g q.canonicalDirty pixel.1 pixel.2 ∧ q.liveDirty.Covers pixel.1 pixel.2
  canonical : ∀ x y, s.panel.canonicalDirty.Covers x y → q.canonicalDirty.Covers x y
  live : ∀ x y, s.panel.liveDirty.Covers x y → q.liveDirty.Covers x y
  padded : Pads q.canonicalDirty frame.x frame.y (s.panel.penRadius frame)
  liveBox : Boxed 0 s.panel.backend.width s.panel.backend.height q.liveDirty
  canonicalBox : Boxed (-25) 8217 8217 q.canonicalDirty

theorem drawn_marks (traced : s.Traced) (spares : s.Spares (.pen lease frame now marker))
    (draws : s.panel.draws lease frame = true) {surface : SharedSurface} (shown : s.surface = some surface)
    {q : PanelRuntime} (drawn : PanelRuntime.Drawn s.panel surface frame q) :
    s.Marks frame (s.panel.geometryForLogical surface) q := by
  have here : s.panel.geometryForLogical surface ∈ s.canvas := by simp [canvas, shown]
  obtain ⟨fits, wide, high⟩ := canvas_fits traced.panel here
  obtain ⟨inside, spans, follows, short⟩ := spares.segment draws shown
  have brush := penRadius_bounds traced draws here
  obtain ⟨across, down⟩ := traced.panel
  obtain ⟨box, pads⟩ := padding frame.x frame.y (s.panel.penRadius frame)
    ⟨⟨inside.1.1, inside.1.2.trans_le wide⟩, inside.2.1, inside.2.2.trans_le high⟩ brush
  have bounds : Bounds (-25) 8217 8217 := by decide
  have panel : Bounds 0 s.panel.backend.width s.panel.backend.height := by
    unfold Bounds i32Min
    omega
  have canonicalFits := traced.canonicalBox.unionFits bounds box
  have canonical : ∀ x y, s.panel.canonicalDirty.Covers x y → q.canonicalDirty.Covers x y := by
    intro x y covers
    rw [drawn.canonicalDirty]
    exact Rect.union_covers canonicalFits (.inl covers)
  have padded : Pads q.canonicalDirty frame.x frame.y (s.panel.penRadius frame) := by
    rw [drawn.canonicalDirty]
    exact ⟨Rect.union_covers canonicalFits (.inr pads.1), Rect.union_covers canonicalFits (.inr pads.2)⟩
  obtain ⟨previous, reach, previousPads, previousSpans⟩ :=
    previous_padded traced draws here inside padded spans follows canonical
  have backend := drawn.backend
  have liveBox := lineBounds_boxed s.panel.backend.positive
    ((s.panel.geometryForLogical surface).logicalToPhysicalPoint (s.panel.previousPen frame).x (s.panel.previousPen frame).y).1
    ((s.panel.geometryForLogical surface).logicalToPhysicalPoint (s.panel.previousPen frame).x (s.panel.previousPen frame).y).2
    ((s.panel.geometryForLogical surface).logicalToPhysicalPoint frame.x frame.y).1
    ((s.panel.geometryForLogical surface).logicalToPhysicalPoint frame.x frame.y).2 (s.panel.penRadius frame)
  have liveFits := traced.liveBox.unionFits panel liveBox
  refine ⟨by simp [backend], ?_, canonical, ?_, padded, ?_, ?_⟩
  · rintro ⟨px, py⟩ member
    have only := drawLine_only s.panel.backend.pixels s.panel.backend.stride s.panel.backend.width
      s.panel.backend.height (s.panel.penRadius frame) (PanelRuntime.penColor frame.tool) short
    rw [show drawLine .. = q.backend.pixels from (congrArg PanelBackend.pixels backend).symm] at only
    have near := modified_written only (by rw [backend]) traced.row
      (fun x y within => ⟨⟨within.1.1, within.1.2.1⟩, within.2.1⟩) member
    have first := point_mem (s.panel.geometryForLogical surface) (s.panel.previousPen frame).x (s.panel.previousPen frame).y
    have last := point_mem (s.panel.geometryForLogical surface) frame.x frame.y
    refine ⟨line_reached fits previous inside previousPads padded (by omega) previousSpans spans near, ?_⟩
    rw [drawn.liveDirty]
    exact Rect.union_covers liveFits
      (.inr (lineBounds_covers across down ⟨⟨first.1, last.1⟩, first.2, last.2⟩ near))
  · intro x y covers
    rw [drawn.liveDirty]
    exact Rect.union_covers liveFits (.inl covers)
  · rw [drawn.liveDirty]
    exact traced.liveBox.union panel liveBox
  · rw [drawn.canonicalDirty]
    exact traced.canonicalBox.union bounds box

/-- The canvas depends on what a frame leaves alone. -/
theorem canvas_eq {t : Stroke} (shm : t.screen.shm = s.screen.shm) (surfaces : t.panel.surfaces = s.panel.surfaces)
    (ink : t.panel.ink = s.panel.ink) (width : t.panel.backend.width = s.panel.backend.width)
    (height : t.panel.backend.height = s.panel.backend.height) : t.canvas = s.canvas := by
  unfold canvas Stroke.surface
  rw [shm, surfaces, ink]
  cases s.panel.surfaces s.panel.ink.key with
  | none => rfl
  | some shmKey => simp [PanelRuntime.geometryForLogical, width, height]

/-- While a segment is drawn, nothing settles. -/
theorem penned_settling {q : PanelRuntime} (traced : s.Traced) (penned : PanelRuntime.Penned s.panel frame q) :
    q.settleDeadline.isSome = true → q.activePen = false := by
  intro waits
  rcases penned.settling with none | ⟨kept, active⟩
  · simp [none] at waits
  · rw [kept] at waits
    rw [traced.settling waits] at active
    cases active

/-- A frame that drew keeps the marks within both rectangles. -/
theorem Marks.traced {t : Stroke} (traced : s.Traced) (marks : s.Marks frame g t.panel)
    (penned : PanelRuntime.Penned s.panel frame t.panel) (draws : s.panel.draws lease frame = true) (shown : g ∈ s.canvas)
    (inside : OnCanvas g frame.x frame.y) (canvas : t.canvas = s.canvas) (reach : t.reach = s.panel.penRadius frame)
    (touched : t.touched = s.touched ++ modified s.panel.backend t.panel.backend)
    (unsent : t.unsent = s.unsent ++ modified s.panel.backend t.panel.backend) : t.Traced := by
  obtain ⟨width, height, stride⟩ := marks.size
  have fits := (canvas_fits traced.panel shown).1
  refine ⟨?_, ?_, ?_, ?_, marks.canonicalBox, ?_, ?_, ?_, ?_⟩
  · rw [width, height]
    exact traced.panel
  · rw [width, stride]
    exact traced.row
  · exact penned_settling traced penned
  · rw [width, height]
    exact marks.liveBox
  · intro _ other same
    rw [canvas, shown] at same
    cases same
    refine ⟨_, penned.last, liveBrushRadius_bounds .., inside, ?_⟩
    rw [reach]
    exact marks.padded
  · intro _
    rw [penned.ink, penned.foreground]
    exact draws_lease draws
  · intro pixel member
    rw [canvas]
    rw [touched, List.mem_append] at member
    rcases member with earlier | inked
    · obtain ⟨other, same, reached⟩ := traced.touched pixel earlier
      rw [shown] at same
      cases same
      exact ⟨g, shown, reached.mono fits marks.canonical⟩
    · exact ⟨g, shown, (marks.inked pixel inked).1⟩
  · intro pixel member
    rw [unsent, List.mem_append] at member
    rcases member with earlier | inked
    · exact marks.live _ _ (traced.unsent pixel earlier)
    · exact (marks.inked pixel inked).2

/-- Without a surface nothing is touched. -/
theorem undrawn_traced {t : Stroke} (traced : s.Traced) (penned : PanelRuntime.Penned s.panel frame t.panel)
    (draws : s.panel.draws lease frame = true) (hidden : s.surface = none) (backend : t.panel.backend = s.panel.backend)
    (live : t.panel.liveDirty = s.panel.liveDirty) (canonical : t.panel.canonicalDirty = s.panel.canonicalDirty)
    (same : t.canvas = s.canvas) (touched : t.touched = s.touched ++ modified s.panel.backend t.panel.backend)
    (unsent : t.unsent = s.unsent ++ modified s.panel.backend t.panel.backend) : t.Traced := by
  have blank : s.canvas = none := by simp [canvas, hidden]
  have none : modified s.panel.backend t.panel.backend = [] := by rw [backend]; exact modified_same rfl rfl
  rw [none, List.append_nil] at touched unsent
  refine ⟨?_, ?_, penned_settling traced penned, ?_, ?_, ?_, ?_, ?_, ?_⟩
  · rw [backend]
    exact traced.panel
  · rw [backend]
    exact traced.row
  · rw [backend, live]
    exact traced.liveBox
  · rw [canonical]
    exact traced.canonicalBox
  · rw [same, blank]
    intro _ g absent
    cases absent
  · intro _
    rw [penned.ink, penned.foreground]
    exact draws_lease draws
  · rw [touched, same, canonical]
    exact traced.touched
  · rw [unsent, live]
    exact traced.unsent

theorem drawing_traced (traced : s.Traced) (spares : s.Spares (.pen lease frame now marker))
    (draws : s.panel.draws lease frame = true) : (s.next (.pen lease frame now marker)).Traced := by
  have penned := PanelRuntime.handlePen_penned (s.screen.env now marker) draws
  cases shown : s.surface with
  | none =>
    obtain ⟨backend, live, canonical⟩ := PanelRuntime.handlePen_undrawn (s.screen.env now marker) draws shown
    rw [next_draws draws]
    exact undrawn_traced traced penned draws shown backend live canonical
      (canvas_eq rfl penned.surfaces penned.ink (congrArg PanelBackend.width backend) (congrArg PanelBackend.height backend))
      rfl rfl
  | some surface =>
    have drawn := PanelRuntime.handlePen_drawn (s.screen.env now marker) draws shown
    have marks := drawn_marks traced spares draws shown drawn
    have here : s.panel.geometryForLogical surface ∈ s.canvas := by simp [canvas, shown]
    rw [next_draws draws]
    refine Marks.traced traced marks penned draws here (spares.segment draws shown).1 ?_ rfl rfl rfl
    exact canvas_eq rfl penned.surfaces penned.ink marks.size.1 marks.size.2.1

end

/-! ## Steps that draw nothing -/

/-- A step that draws nothing: it keeps the canonical rectangle or gives it up with all
    that was touched, and keeps the end of the stroke while the pen is down. -/
structure Rests (s t : Stroke) : Prop where
  shm : t.screen.shm = s.screen.shm
  surfaces : t.panel.surfaces = s.panel.surfaces
  ink : t.panel.ink = s.panel.ink
  foreground : t.panel.foreground = s.panel.foreground
  size : (t.panel.backend.width = s.panel.backend.width ∧ t.panel.backend.height = s.panel.backend.height) ∧
    t.panel.backend.stride = s.panel.backend.stride
  settling : t.panel.settleDeadline.isSome = true → t.panel.activePen = false
  liveBox : Boxed 0 s.panel.backend.width s.panel.backend.height t.panel.liveDirty
  unsent : ∀ pixel ∈ t.unsent, t.panel.liveDirty.Covers pixel.1 pixel.2
  canonical : (t.panel.canonicalDirty = s.panel.canonicalDirty ∧ t.touched = s.touched) ∨
    (t.panel.canonicalDirty = default ∧ t.touched = [])
  tail : t.panel.activePen = true → s.panel.activePen = true ∧ t.panel.lastPen = s.panel.lastPen ∧
    t.panel.canonicalDirty = s.panel.canonicalDirty ∧ t.reach = s.reach

theorem Rests.traced {t : Stroke} (rests : Rests s t) (traced : s.Traced) : t.Traced := by
  obtain ⟨⟨width, height⟩, stride⟩ := rests.size
  have same := canvas_eq rests.shm rests.surfaces rests.ink width height
  refine ⟨?_, ?_, rests.settling, ?_, ?_, ?_, ?_, ?_, rests.unsent⟩
  · rw [width, height]
    exact traced.panel
  · rw [width, stride]
    exact traced.row
  · rw [width, height]
    exact rests.liveBox
  · rcases rests.canonical with ⟨kept, _⟩ | ⟨given, _⟩
    · rw [kept]
      exact traced.canonicalBox
    · rw [given]
      exact Boxed.default
  · intro active
    obtain ⟨before, last, canonical, reach⟩ := rests.tail active
    rw [same, last, canonical, reach]
    exact traced.tail before
  · intro some
    rw [rests.ink, rests.foreground]
    rcases rests.canonical with ⟨_, kept⟩ | ⟨_, given⟩
    · exact traced.ready (kept ▸ some)
    · exact absurd given some
  · intro pixel member
    rw [same]
    rcases rests.canonical with ⟨canonical, kept⟩ | ⟨_, given⟩
    · rw [canonical]
      exact traced.touched pixel (kept ▸ member)
    · rw [given] at member
      cases member

section
variable {lease : PanelLease} {frame : PenFrame} {now : Int} {marker : Option Nat}

/-- A frame that leaves the worker alone changes nothing. -/
theorem idle_rests (traced : s.Traced) (lasting : (s.panel.penLeaseValid lease frame && frame.phase = .cancel) = false)
    (same : (s.panel.handlePen (s.screen.env now marker) lease frame).2 = s.panel)
    (idle : s.panel.draws lease frame = false) : Rests s (s.next (.pen lease frame now marker)) := by
  have panel : (s.screen.next (.command (.pen lease frame) now marker)).panel = s.panel := same
  have none : modified s.panel.backend s.panel.backend = [] := modified_same rfl rfl
  have kept : s.next (.pen lease frame now marker) =
      { s with screen := s.screen.next (.command (.pen lease frame) now marker) } := by
    simp only [next, StrokeEvent.onScreen, lasting, idle, panel, none, Bool.false_eq_true, if_false,
      ne_eq, not_true_eq_false, decide_false, List.append_nil]
  rw [kept]
  have here : (Stroke.panel { s with screen := s.screen.next (.command (.pen lease frame) now marker) }) = s.panel := panel
  refine ⟨rfl, ?_, ?_, ?_, ?_, ?_, ?_, ?_, .inl ⟨?_, rfl⟩, ?_⟩ <;> rw [here]
  · exact ⟨⟨rfl, rfl⟩, rfl⟩
  · exact traced.settling
  · exact traced.liveBox
  · exact traced.unsent
  · exact fun active => ⟨active, rfl, rfl, rfl⟩

/-- A cancelled stroke gives both rectangles up. -/
theorem cancel_rests (cancelled : (s.panel.penLeaseValid lease frame && frame.phase = .cancel) = true) :
    Rests s (s.next (.pen lease frame now marker)) := by
  simp only [Bool.and_eq_true, decide_eq_true_eq] at cancelled
  have aborted : (s.panel.handlePen (s.screen.env now marker) lease frame).2 = s.panel.abortInk := by
    unfold PanelRuntime.handlePen
    simp [cancelled.1, cancelled.2]
  have given : s.next (.pen lease frame now marker) =
      { s with screen := s.screen.next (.command (.pen lease frame) now marker), touched := [], unsent := [] } := by
    simp [next, StrokeEvent.onScreen, cancelled.1, cancelled.2]
  rw [given]
  have here : Stroke.panel { s with
      screen := s.screen.next (.command (.pen lease frame) now marker), touched := [], unsent := [] } =
      s.panel.abortInk := aborted
  refine ⟨rfl, ?_, ?_, ?_, ?_, ?_, ?_, ?_, .inr ⟨?_, rfl⟩, ?_⟩ <;> rw [here]
  · rfl
  · rfl
  · rfl
  · exact ⟨⟨rfl, rfl⟩, rfl⟩
  · exact fun _ => rfl
  · exact Boxed.default
  · intro pixel member
    cases member
  · rfl
  · intro active
    cases active

/-- After a submission nothing is unsent, and without one the live rectangle waits. -/
theorem unsent_kept {before after : Nat} {unsent : List (Int × Int)} {liveDirty : Rect}
    (waiting : after = before → ∀ pixel ∈ unsent, liveDirty.Covers pixel.1 pixel.2) :
    ∀ pixel ∈ if after ≠ before then [] else unsent, liveDirty.Covers pixel.1 pixel.2 := by
  by_cases silent : after = before
  · simpa [silent] using waiting silent
  · simp [silent]

/-- The end of a stroke flushes the live ink and begins to settle. -/
theorem up_rests (traced : s.Traced) (valid : s.panel.penLeaseValid lease frame = true) (up : frame.phase = .up)
    (active : s.panel.activePen = true) : Rests s (s.next (.pen lease frame now marker)) := by
  have ended : (s.panel.handlePen (s.screen.env now marker) lease frame).2 =
      (s.panel.endPen (s.screen.env now marker)).2 := by
    unfold PanelRuntime.handlePen
    simp [valid, up, active]
  obtain ⟨telemetry, lastLiveSubmit, liveDirty, same, boxed, waiting⟩ := PanelRuntime.flushLive_keeps
    (s.screen.env now marker) (p := { s.panel with
      activePen := false
      lastPen := none
      settleStarted := some now
      settleDeadline := some (now + canonicalSettleDelay) }) s.unsent true traced.panel traced.liveBox traced.unsent
  have panel : (s.screen.next (.command (.pen lease frame) now marker)).panel = { s.panel with
      activePen := false
      lastPen := none
      settleStarted := some now
      settleDeadline := some (now + canonicalSettleDelay)
      liveDirty, telemetry, lastLiveSubmit } := ended.trans same
  have idle : s.panel.draws lease frame = false := by simp [PanelRuntime.draws, up]
  have none : modified s.panel.backend s.panel.backend = [] := modified_same rfl rfl
  have kept : s.next (.pen lease frame now marker) =
      { s with
        screen := s.screen.next (.command (.pen lease frame) now marker)
        unsent := if telemetry.nextSubmissionSequence ≠ s.panel.telemetry.nextSubmissionSequence then [] else s.unsent } := by
    simp [next, StrokeEvent.onScreen, up, idle, panel, none]
  rw [kept]
  have here : Stroke.panel { s with
      screen := s.screen.next (.command (.pen lease frame) now marker)
      unsent := if telemetry.nextSubmissionSequence ≠ s.panel.telemetry.nextSubmissionSequence then [] else s.unsent } =
      _ := panel
  refine ⟨rfl, ?_, ?_, ?_, ?_, ?_, ?_, ?_, .inl ⟨?_, rfl⟩, ?_⟩ <;> rw [here]
  · exact ⟨⟨rfl, rfl⟩, rfl⟩
  · exact fun _ => rfl
  · exact boxed
  · exact unsent_kept waiting
  · intro active
    cases active

end

/-- The deadlines of the worker flush the live ink and settle what is due. -/
theorem flush_panel (s : Stroke) (now : Int) (marker : Option Nat) :
    PanelRuntime.Settled (s.panel.flushLive (s.screen.env now marker) false).2
      (s.screen.next (.flushDeadlines now marker)).panel := by
  have deadlines : (s.screen.next (.flushDeadlines now marker)).panel =
      (s.panel.flushDeadlines (s.screen.env now marker)).2 := rfl
  rw [deadlines]
  unfold PanelRuntime.flushDeadlines Outcome.andThen
  rcases s.panel.flushLive (s.screen.env now marker) false with ⟨result, q⟩
  cases result with
  | error error => exact .early
  | ok _ => exact PanelRuntime.settle_settled _

theorem waits_on (deadline : Option Int) : (deadline.isSome && deadline.isNone) = false := by
  cases deadline <;> rfl

theorem flush_rests (traced : s.Traced) (now : Int) (marker : Option Nat) : Rests s (s.next (.flush now marker)) := by
  obtain ⟨telemetry, lastLiveSubmit, liveDirty, same, boxed, waiting⟩ := PanelRuntime.flushLive_keeps
    (s.screen.env now marker) s.unsent false traced.panel traced.liveBox traced.unsent
  have settled := flush_panel s now marker
  rw [same] at settled
  generalize screen : s.screen.next (.flushDeadlines now marker) = after at settled
  have shm : after.shm = s.screen.shm := screen ▸ rfl
  have reached : s.next (.flush now marker) =
      { s with
        screen := after
        touched := if s.panel.settleDeadline.isSome && after.panel.settleDeadline.isNone then [] else s.touched
        unsent := if after.panel.telemetry.nextSubmissionSequence ≠ s.panel.telemetry.nextSubmissionSequence then []
          else s.unsent } := by
    simp [next, StrokeEvent.onScreen, screen]
  rw [reached]
  generalize panel : after.panel = q at settled
  cases settled with
  | early =>
    refine ⟨shm, ?_, ?_, ?_, ?_, ?_, ?_, ?_, .inl ⟨?_, ?_⟩, ?_⟩ <;> simp only [Stroke.panel, panel]
    · simp
    · exact traced.settling
    · exact boxed
    · exact unsent_kept waiting
    · simp [waits_on]
    · exact fun active => ⟨active, trivial, trivial, trivial⟩
  | waits deadline settling =>
    have raised := traced.settling settling
    refine ⟨shm, ?_, ?_, ?_, ?_, ?_, ?_, ?_, .inl ⟨?_, ?_⟩, ?_⟩ <;> simp only [Stroke.panel, panel]
    · simp
    · exact fun _ => raised
    · exact boxed
    · exact unsent_kept waiting
    · simp
    · exact fun active => absurd active (by simp [Stroke.panel] at raised; simp [raised])
  | ended settling backend size =>
    have raised := traced.settling settling
    refine ⟨shm, ?_, ?_, ?_, ?_, ?_, ?_, ?_, .inr ⟨?_, ?_⟩, ?_⟩ <;> simp only [Stroke.panel, panel]
    · exact size
    · exact fun _ => raised
    · exact boxed
    · exact unsent_kept waiting
    · simp only [Stroke.panel] at settling
      simp [settling]
    · exact fun active => absurd active (by simp [Stroke.panel] at raised; simp [raised])

theorem next_traced (traced : s.Traced) (event : StrokeEvent) (spares : s.Spares event) : (s.next event).Traced := by
  cases event with
  | client shmKey bytes refreshMode commits => exact client_traced traced shmKey bytes refreshMode commits
  | flush now marker => exact (flush_rests traced now marker).traced traced
  | pen lease frame now marker =>
    cases draws : s.panel.draws lease frame with
    | true => exact drawing_traced traced spares draws
    | false =>
      refine Rests.traced ?_ traced
      by_cases cancelled : (s.panel.penLeaseValid lease frame && frame.phase = .cancel) = true
      · exact cancel_rests cancelled
      · by_cases lifts : s.panel.penLeaseValid lease frame = true ∧ frame.phase = .up ∧ s.panel.activePen = true
        · exact up_rests traced lifts.1 lifts.2.1 lifts.2.2
        · refine idle_rests traced (by simpa using cancelled) ?_ draws
          unfold PanelRuntime.handlePen
          by_cases valid : s.panel.penLeaseValid lease frame = true
          · cases phase : frame.phase <;> simp_all [PanelRuntime.draws]
          · simp [valid]

theorem Traced.live (traced : s.Traced) (now : Int) (marker : Option Nat) (force : Bool)
    (submits : (s.panel.flushLive (s.screen.env now marker) force).2.telemetry.nextSubmissionSequence ≠
      s.panel.telemetry.nextSubmissionSequence) :
    ∃ rect, s.panel.flushLive (s.screen.env now marker) force = s.panel.submitLive (s.screen.env now marker) rect ∧
      ∀ pixel ∈ s.unsent, rect.Covers pixel.1 pixel.2 := by
  have flushes := PanelRuntime.flushLive_flushes (s.screen.env now marker) (p := s.panel) force
  generalize s.panel.flushLive (s.screen.env now marker) force = outcome at flushes submits
  cases flushes with
  | waits => exact absurd rfl submits
  | drops outside => exact absurd rfl submits
  | submits =>
    refine ⟨_, rfl, fun pixel member => ?_⟩
    exact PanelRuntime.liveRect_covers traced.panel traced.liveBox (traced.unsent pixel member)

theorem Traced.canonical (traced : s.Traced) (pixel : Int × Int) (member : pixel ∈ s.touched) :
    ∃ surface ∈ s.surface,
      ((s.panel.geometryForLogical surface).logicalToPhysicalRect s.panel.canonicalDirty).Covers pixel.1 pixel.2 := by
  obtain ⟨g, shown, reached⟩ := traced.touched pixel member
  obtain ⟨fits, _⟩ := canvas_fits traced.panel shown
  obtain ⟨surface, held, rfl⟩ := Option.map_eq_some_iff.mp shown
  exact ⟨surface, held, reached.covers fits⟩

theorem Traced.settle (traced : s.Traced) (some : s.touched ≠ []) (now : Int) (marker : Option Nat)
    (due : (s.panel.settleDeadline.any fun deadline => deadline ≤ now) = true)
    (newer : s.panel.canonicalIsNewer (s.screen.env now marker) = true) :
    ∃ surface ∈ s.surface, ∃ rect,
      (s.panel.settle (s.screen.env now marker)).backend.pixels =
        copySurfaceRect surface s.panel.backend.pixels s.panel.backend.stride (s.panel.geometryForLogical surface) rect ∧
      ∀ pixel ∈ s.touched, rect.Covers pixel.1 pixel.2 := by
  obtain ⟨enabled, visible⟩ := traced.ready some
  obtain ⟨first, member⟩ := List.exists_mem_of_ne_nil _ some
  obtain ⟨g, shown, reached⟩ := traced.touched first member
  obtain ⟨fits, _⟩ := canvas_fits traced.panel shown
  obtain ⟨surface, held, rfl⟩ := Option.map_eq_some_iff.mp shown
  obtain ⟨shmKey, registered, rfl⟩ := Option.map_eq_some_iff.mp held
  obtain ⟨_, _, _, point⟩ := reached.canvas
  obtain ⟨_, _, _, clipped⟩ := (reached.clip fits).canvas
  have dirty : (s.panel.canonicalDirty.clip (s.screen.shm shmKey).width (s.screen.shm shmKey).height).isEmpty = false :=
    clipped.1
  refine ⟨_, held, (s.panel.geometryForLogical (s.screen.shm shmKey)).logicalToPhysicalRect
    (s.panel.canonicalDirty.clip (s.screen.shm shmKey).width (s.screen.shm shmKey).height), ?_, ?_⟩
  · have key : s.panel.ink.lease.key = s.panel.ink.key := rfl
    have overdue : (s.panel.settleDeadline.any fun deadline => deadline ≤ (s.screen.env now marker).now) = true := due
    have shm : (s.screen.env now marker).shm = s.screen.shm := rfl
    unfold PanelRuntime.settle PanelRuntime.syncSurfaceBuffer
    simp [overdue, shm, newer, enabled, visible, point.1, key, registered, dirty, PanelRuntime.copySurface,
      PanelRuntime.geometryForLogical]
  · intro pixel touched
    obtain ⟨other, same, within⟩ := traced.touched pixel touched
    rw [shown] at same
    cases same
    exact (within.clip fits).covers fits

theorem Traced.covered (traced : s.Traced) : s.Covered where
  live := traced.live
  canonical := traced.canonical
  settle := traced.settle

end Stroke

/-- In every stroke whose points are padded wide enough for the brushes drawn from them,
    the next submission and the settle cover each pixel that live ink modified. -/
theorem live_ink_covered (shm : Nat → SharedSurface) (p : PanelRuntime)
    (panel : p.backend.width ≤ i32Max ∧ p.backend.height ≤ i32Max) (row : p.backend.width * 4 ≤ p.backend.stride)
    (events : List StrokeEvent) (spares : Runs.Along Stroke.next Stroke.Spares (.start shm p) events) :
    (events.foldl Stroke.next (.start shm p)).Covered := by
  have traced := Runs.Along.invariant Stroke.Traced (fun s event traced => Stroke.next_traced traced event)
    (Stroke.start_traced panel row) spares
  exact traced.covered

namespace Sample

/-- A surface of one line. -/
def line (width : Nat) (positive : 0 < width) (bounded : width ≤ 8192) : SharedSurface :=
  ⟨1, width, 1, ⟨by omega, by decide⟩, ⟨by omega, by decide⟩, width * 4, .rgba8888, Array.replicate (width * 4) 0xff,
    refreshModeUi, 0⟩

/-- A worker whose panel is one grey line, with ink for the surface of key 1. -/
def inkPanel (width : Nat) (positive : 0 < width) : PanelRuntime :=
  { PanelRuntime.new ⟨width, 1, width * 4, ⟨by omega, by decide⟩, Array.replicate (width * 4) 0x80, []⟩ with
    surfaces := fun key => if key = 1 then some 7 else none
    foreground := some lease
    ink := ⟨1, 1, 1, true, none⟩ }

def penTo (phase : PenPhase) (tool : PenTool) (x : Int) : StrokeEvent :=
  .pen lease ⟨phase, tool, x, 0, 0, 4096⟩ 0 (some 1)

def drawn : List StrokeEvent := [penTo .down .pen 22, penTo .move .pen 26, penTo .up .pen 26]

/-- A pen stroke on a surface of the panel's size, and its turn to the eraser. -/
def penned : Stroke :=
  (Stroke.start (fun _ => line 27 (by decide) (by decide)) (inkPanel 27 (by decide))).next (penTo .down .pen 22)

def turned : Stroke := penned.next (penTo .move .eraser 26)

/-- A point on a surface that is scaled down to the panel. -/
def shrunk : Stroke :=
  [penTo .down .pen 0].foldl Stroke.next
    (.start (fun _ => line 12 (by decide) (by decide)) (inkPanel 2 (by decide)))

end Sample

theorem live_ink_covered_drawn :
    (Sample.drawn.foldl Stroke.next (.start (fun _ => Sample.line 27 (by decide) (by decide))
      (Sample.inkPanel 27 (by decide)))).Covered :=
  live_ink_covered _ _ (by decide) (by decide) Sample.drawn (by decide)

open Sample in
/-- The eraser reaches 22 pixels to the left of the last point of the pen. -/
theorem Sample.turned_wipes :
    Sample.penned.panel.backend.pixelBytes 0 0 ≠ Sample.turned.panel.backend.pixelBytes 0 0 := by
  intro same
  let frame : PenFrame := ⟨.move, .eraser, 26, 0, 0, 4096⟩
  let surface := line 27 (by decide) (by decide)
  have draws : penned.panel.draws lease frame = true := by decide
  have shown : penned.surface = some surface := rfl
  have pixels := congrArg PanelBackend.pixels (PanelRuntime.handlePen_drawn (penned.screen.env 0 (some 1)) draws shown).backend
  have start : (penned.panel.geometryForLogical surface).logicalToPhysicalPoint (penned.panel.previousPen frame).x
      (penned.panel.previousPen frame).y = (22, 0) := by decide
  have brush : penned.panel.penRadius frame = 22 := by decide
  have wipes : Wiped 0 turned.panel.backend.pixels := by
    change Wiped 0 (penned.panel.handlePen (penned.screen.env 0 (some 1)) lease frame).2.backend.pixels
    rw [pixels]
    dsimp only
    rw [start, brush]
    refine drawLine_wipes ?_ ?_ ?_ ?_ ?_
    · decide
    · decide +kernel
    · decide +kernel
    · decide +kernel
    · decide +kernel
  have grey : penned.panel.backend.pixels[0]? = some 0x80 := by decide +kernel
  have first := congrArg List.head? same
  have here : penned.panel.backend.pixels[0]? = turned.panel.backend.pixels[0]? := Option.some.inj first
  rw [grey, wipes] at here
  exact absurd here (by decide)

/-- The eraser wipes a pixel at the stroke's last point that only a pen's padding is
    recorded for, and on a shrunk surface the padding of a pen is smaller than its brush. -/
theorem canonical_misses_ink : ¬Sample.turned.Covered ∧ ¬Sample.shrunk.Covered := by
  constructor
  · intro covered
    have touched : (0, 0) ∈ Sample.turned.touched :=
      List.mem_append_right _ (mem_modified.mpr ⟨by decide, Sample.turned_wipes⟩)
    obtain ⟨surface, shown, covers⟩ := covered.canonical (0, 0) touched
    cases shown
    revert covers
    decide +kernel
  · intro covered
    have touched : (1, 0) ∈ Sample.shrunk.touched := by
      refine List.mem_append_right _ (mem_modified.mpr ⟨by decide, ?_⟩)
      decide +kernel
    obtain ⟨surface, shown, covers⟩ := covered.canonical (1, 0) touched
    cases shown
    revert covers
    decide +kernel

end Remagic.Display
