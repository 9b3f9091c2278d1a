import Mathlib.Algebra.Order.Ring.Int
import Mathlib.Tactic.Linarith
import Remagic.PanelSpecs

/-!
# What live ink writes

`draw_line` changes no byte outside the pixels of its discs, and its discs lie in
the rectangle it reports. Then how far an extent of the logical canvas reaches on
the panel: the padding of a point that is drawn with a brush of physical pixels.
-/

namespace Remagic.Display

/-- Byte `i` of the framebuffer belongs to the pixel. -/
def PixelByte (stride : Nat) (x y : Int) (i : Nat) : Prop :=
  y.toNat * stride + x.toNat * 4 ≤ i ∧ i < y.toNat * stride + x.toNat * 4 + 4

/-- No byte changes but those of the pixels. -/
def OnlyWrites (stride : Nat) (pixels : Int → Int → Prop) (before after : Array UInt8) : Prop :=
  ∀ i, (∀ x y, pixels x y → ¬PixelByte stride x y i) → after[i]? = before[i]?

section
variable {stride : Nat} {pixels : Int → Int → Prop}

theorem OnlyWrites.refl (bytes : Array UInt8) : OnlyWrites stride pixels bytes bytes := fun _ _ => rfl

theorem OnlyWrites.trans {first second third : Array UInt8} (one : OnlyWrites stride pixels first second)
    (two : OnlyWrites stride pixels second third) : OnlyWrites stride pixels first third := by
  intro i outside
  exact (two i outside).trans (one i outside)

theorem OnlyWrites.mono {wider : Int → Int → Prop} {before after : Array UInt8}
    (only : OnlyWrites stride pixels before after) (within : ∀ x y, pixels x y → wider x y) :
    OnlyWrites stride wider before after := by
  intro i outside
  exact only i fun x y inside => outside x y (within x y inside)

/-- A loop writes where its turns write. -/
theorem OnlyWrites.foldl {ι : Type} {turn : Array UInt8 → ι → Array UInt8} {items : List ι}
    (each : ∀ item ∈ items, ∀ bytes, OnlyWrites stride pixels bytes (turn bytes item)) (bytes : Array UInt8) :
    OnlyWrites stride pixels bytes (items.foldl turn bytes) := by
  induction items generalizing bytes with
  | nil => exact .refl bytes
  | cons item rest ih =>
    refine (each item (List.mem_cons_self ..) bytes).trans (ih ?_ _)
    intro other member
    exact each other (List.mem_cons_of_mem _ member)

theorem writePixel_only {x y : Int} (inside : pixels x y) (bytes : Array UInt8) (color : Vector UInt8 4) :
    OnlyWrites stride pixels bytes (writePixel bytes (y.toNat * stride + x.toNat * 4) color) := by
  intro i outside
  have apart := outside x y inside
  unfold PixelByte at apart
  unfold writePixel
  split
  · have first : y.toNat * stride + x.toNat * 4 ≠ i := by omega
    have second : y.toNat * stride + x.toNat * 4 + 1 ≠ i := by omega
    have third : y.toNat * stride + x.toNat * 4 + 2 ≠ i := by omega
    have fourth : y.toNat * stride + x.toNat * 4 + 3 ≠ i := by omega
    rw [Array.getElem?_setIfInBounds_ne fourth, Array.getElem?_setIfInBounds_ne third,
      Array.getElem?_setIfInBounds_ne second, Array.getElem?_setIfInBounds_ne first]
  · rfl

end

/-! ## Discs and lines -/

/-- A pixel of the panel within `radius` of the extents from `x0` to `x1` and `y0` to `y1`. -/
def Near (width height x0 y0 x1 y1 radius px py : Int) : Prop :=
  (0 ≤ px ∧ px < width ∧ min x0 x1 - radius ≤ px ∧ px ≤ max x0 x1 + radius) ∧
    0 ≤ py ∧ py < height ∧ min y0 y1 - radius ≤ py ∧ py ≤ max y0 y1 + radius

theorem drawDisc_only (bytes : Array UInt8) (stride : Nat) (width height x y radius : Int) (color : Vector UInt8 4) :
    OnlyWrites stride (Near width height x y x y radius) bytes
      (drawDisc bytes stride width height x y radius color) := by
  refine OnlyWrites.foldl (fun dy row bytes => ?_) bytes
  refine OnlyWrites.foldl (fun dx column bytes => ?_) bytes
  obtain ⟨left, right⟩ := mem_span.mp column
  obtain ⟨top, bottom⟩ := mem_span.mp row
  by_cases far : dx * dx + dy * dy > radius * radius
  · simp only [far, if_true]
    exact .refl bytes
  · simp only [far, if_false]
    split
    · exact .refl bytes
    · refine writePixel_only ?_ bytes color
      unfold Near
      omega

theorem wrap_small {n : Int} (low : -i32Max ≤ n) (high : n ≤ i32Max) : wrap n = n := by
  unfold wrap i32Max at *
  exact Int.bmod_eq_of_le (by omega) (by omega)

/-- The way from one end to the other after `step` of `steps` parts. -/
theorem step_between {d step steps : Int} (way : (d.natAbs : Int) ≤ steps) (start : 0 ≤ step) (stop : step ≤ steps)
    (fits : steps * steps ≤ i32Max) :
    min 0 d ≤ (wrap (d * step)).tdiv steps ∧ (wrap (d * step)).tdiv steps ≤ max 0 d := by
  have upper : d * step ≤ steps * steps := by
    calc d * step ≤ steps * step := mul_le_mul_of_nonneg_right (by omega) start
      _ ≤ steps * steps := mul_le_mul_of_nonneg_left stop (start.trans stop)
  have lower : -(steps * steps) ≤ d * step := by
    have : -d * step ≤ steps * steps := by
      calc -d * step ≤ steps * step := mul_le_mul_of_nonneg_right (by omega) start
        _ ≤ steps * steps := mul_le_mul_of_nonneg_left stop (start.trans stop)
    rw [neg_mul] at this
    omega
  rw [wrap_small (by omega) (by omega)]
  rcases eq_or_lt_of_le (start.trans stop) with zero | positive
  · rw [← zero, Int.tdiv_zero]
    omega
  · rcases le_total 0 d with forward | backward
    · have whole : d * step ≤ d * steps := mul_le_mul_of_nonneg_left stop forward
      rw [Int.tdiv_eq_ediv_of_nonneg (mul_nonneg forward start)]
      have least := Int.ediv_nonneg (mul_nonneg forward start) positive.le
      have most := Int.ediv_le_of_le_mul positive whole
      omega
    · have whole : -d * step ≤ -d * steps := mul_le_mul_of_nonneg_left stop (by omega)
      have mirrored : (d * step).tdiv steps = -((-d * step) / steps) := by
        rw [← Int.tdiv_eq_ediv_of_nonneg (mul_nonneg (by omega) start), neg_mul, Int.neg_tdiv, neg_neg]
      have least := Int.ediv_nonneg (mul_nonneg (by omega : 0 ≤ -d) start) positive.le
      have most := Int.ediv_le_of_le_mul positive whole
      omega

/-- The number of discs of a line after its first. -/
def lineSteps (x0 y0 x1 y1 : Int) : Int := max (max (x1 - x0).natAbs (y1 - y0).natAbs : Int) 1

theorem drawLine_only (bytes : Array UInt8) (stride : Nat) (width height : Int) {x0 y0 x1 y1 : Int} (radius : Int)
    (color : Vector UInt8 4) (fits : lineSteps x0 y0 x1 y1 * lineSteps x0 y0 x1 y1 ≤ i32Max) :
    OnlyWrites stride (Near width height x0 y0 x1 y1 radius) bytes
      (drawLine bytes stride width height x0 y0 x1 y1 radius color) := by
  refine OnlyWrites.foldl (fun step member bytes => ?_) bytes
  change step ∈ span 0 (lineSteps x0 y0 x1 y1 + 1) at member
  obtain ⟨start, stop⟩ := mem_span.mp member
  have across : ((x1 - x0).natAbs : Int) ≤ lineSteps x0 y0 x1 y1 := by
    unfold lineSteps
    omega
  have down : ((y1 - y0).natAbs : Int) ≤ lineSteps x0 y0 x1 y1 := by
    unfold lineSteps
    omega
  have column := step_between across start (Int.le_of_lt_add_one stop) fits
  have row := step_between down start (Int.le_of_lt_add_one stop) fits
  refine (drawDisc_only bytes stride width height _ _ radius color).mono fun px py near => ?_
  unfold Near at near ⊢
  unfold lineSteps at column row
  omega

/-- What a line writes lies in the rectangle that it reports. -/
theorem lineBounds_covers {width height x0 y0 x1 y1 radius px py : Int} (wide : width ≤ i32Max) (high : height ≤ i32Max)
    (ends : (0 ≤ x0 ∧ 0 ≤ x1) ∧ 0 ≤ y0 ∧ 0 ≤ y1)
    (near : Near width height x0 y0 x1 y1 radius px py) :
    (lineBounds width height x0 y0 x1 y1 radius).Covers px py := by
  unfold Near at near
  refine (Rect.clip_covers wide high).mpr ⟨⟨near.1.2.2.1, ?_, near.1.1, near.1.2.1⟩, near.2.2.2.1, ?_, near.2.1, near.2.2.1⟩
  · unfold Rect.right saturate i32Min
    simp only
    omega
  · unfold Rect.bottom saturate i32Min
    simp only
    omega

/-! ## From the canvas to the panel -/

/-- About a point of the canvas, a padding of `reach + 3` logical pixels spans a brush
    of `radius` physical pixels, whatever way the point is rounded. -/
def Reaches (logical physical reach radius : Int) : Prop :=
  radius * logical ≤ (reach + 3) * physical + logical / 2 ∧
    radius * logical + logical / 2 < (reach + 4) * physical

instance (logical physical reach radius : Int) : Decidable (Reaches logical physical reach radius) :=
  inferInstanceAs (Decidable (_ ∧ _))

theorem clamp_mem {S n : Int} (logical : 0 < S) : 0 ≤ clamp 0 S n ∧ clamp 0 S n ≤ S := by
  unfold clamp
  omega

section
variable {S T : Int} (logical : 0 < S) (physical : 0 < T ∧ T ≤ i32Max)
include logical physical

theorem scaleFloor_eq {n : Int} (canvas : 0 ≤ n ∧ n ≤ S) : scaleFloor n S T = n * T / S := by
  have whole : n * T ≤ T * S := by
    rw [Int.mul_comm T S]
    exact Int.mul_le_mul_of_nonneg_right canvas.2 physical.1.le
  have product : 0 ≤ n * T := Int.mul_nonneg canvas.1 physical.1.le
  unfold scaleFloor
  rw [Int.tdiv_eq_ediv_of_nonneg product]
  have most := Int.ediv_le_of_le_mul logical whole
  exact Rect.wrap_eq (Int.ediv_nonneg product logical.le) (by omega)

theorem scaleCeil_eq {n : Int} (canvas : 0 ≤ n ∧ n ≤ S) : scaleCeil n S T = (n * T + S - 1) / S := by
  have whole : n * T ≤ T * S := by
    rw [Int.mul_comm T S]
    exact Int.mul_le_mul_of_nonneg_right canvas.2 physical.1.le
  have product : 0 ≤ n * T := Int.mul_nonneg canvas.1 physical.1.le
  unfold scaleCeil
  rw [Int.tdiv_eq_ediv_of_nonneg (by omega)]
  have most : (n * T + S - 1) / S < T + 1 := by
    refine Int.ediv_lt_of_lt_mul logical ?_
    rw [Int.add_mul]
    omega
  exact Rect.wrap_eq (Int.ediv_nonneg (by omega) logical.le) (by omega)

/-- Where the physical coordinate of a point on the canvas lies. -/
theorem scaleRound_spec {x : Int} (canvas : 0 ≤ x ∧ x < S) :
    0 ≤ scaleRound x S T ∧ scaleRound x S T * S ≤ x * T + S / 2 ∧ x * T + S / 2 < scaleRound x S T * S + S := by
  have product : 0 ≤ x * T := Int.mul_nonneg canvas.1 physical.1.le
  have inside : x * T ≤ (S - 1) * T := Int.mul_le_mul_of_nonneg_right (by omega) physical.1.le
  have half : 0 ≤ S / 2 ∧ S / 2 ≤ S := by omega
  have most : (x * T + S / 2) / S < T + 1 := by
    refine Int.ediv_lt_of_lt_mul logical ?_
    linarith
  have least : 0 ≤ (x * T + S / 2) / S := Int.ediv_nonneg (by omega) logical.le
  have same : scaleRound x S T = (x * T + S / 2) / S := by
    unfold scaleRound
    rw [Int.tdiv_eq_ediv_of_nonneg (by omega)]
    exact Rect.wrap_eq least (by omega)
  rw [same]
  refine ⟨least, Int.ediv_mul_le _ logical.ne', ?_⟩
  have := Int.lt_ediv_add_one_mul_self (x * T + S / 2) logical
  linarith

/-- The panel's extent of a padded point begins before its brush does. -/
theorem padded_start {lo x reach radius p : Int} (canvas : 0 ≤ x ∧ x < S) (reaches : Reaches S T reach radius)
    (padded : lo ≤ x - (reach + 3)) (panel : 0 ≤ p) (brush : clamp 0 (T - 1) (scaleRound x S T) - radius ≤ p) :
    scaleFloor (clamp 0 S lo) S T ≤ p := by
  obtain ⟨_, _, above⟩ := scaleRound_spec logical physical canvas
  rw [scaleFloor_eq logical physical (clamp_mem logical)]
  refine Int.le_of_lt_add_one (Int.ediv_lt_of_lt_mul logical ?_)
  by_cases edge : lo ≤ 0
  · have start : clamp 0 S lo = 0 := by
      unfold clamp
      omega
    rw [start, Int.zero_mul]
    exact Int.mul_pos (by omega) logical
  · have start : clamp 0 S lo ≤ x - (reach + 3) := by
      unfold clamp
      omega
    have scaled := Int.mul_le_mul_of_nonneg_right start physical.1.le
    obtain ⟨left, right⟩ := reaches
    -- The centre of the brush is the rounded point, or the panel's last column.
    rcases le_total (scaleRound x S T) (T - 1) with inner | last
    · have centre : clamp 0 (T - 1) (scaleRound x S T) = scaleRound x S T := by
        unfold clamp
        omega
      rw [centre] at brush
      have := Int.mul_le_mul_of_nonneg_right brush logical.le
      linarith
    · have centre : T - 1 ≤ clamp 0 (T - 1) (scaleRound x S T) := by
        unfold clamp
        omega
      have := Int.mul_le_mul_of_nonneg_right (show T - 1 - radius ≤ p by omega) logical.le
      have inside : x * T ≤ (S - 1) * T := Int.mul_le_mul_of_nonneg_right (by omega) physical.1.le
      have half : 0 ≤ S / 2 := by omega
      linarith

/-- It ends after its brush does. -/
theorem padded_stop {hi x reach radius p : Int} (canvas : 0 ≤ x ∧ x < S) (reaches : Reaches S T reach radius)
    (padded : x + reach + 4 ≤ hi) (panel : p < T) (brush : p ≤ clamp 0 (T - 1) (scaleRound x S T) + radius) :
    p < scaleCeil (clamp 0 S hi) S T := by
  obtain ⟨positive, below, _⟩ := scaleRound_spec logical physical canvas
  rw [scaleCeil_eq logical physical (clamp_mem logical)]
  have enough : p * S < clamp 0 S hi * T := by
    by_cases edge : S ≤ hi
    · have stop : clamp 0 S hi = S := by
        unfold clamp
        omega
      rw [stop, Int.mul_comm S T]
      exact Int.mul_lt_mul_of_pos_right panel logical
    · have stop : x + reach + 4 ≤ clamp 0 S hi := by
        unfold clamp
        omega
      have scaled := Int.mul_le_mul_of_nonneg_right stop physical.1.le
      have centre : clamp 0 (T - 1) (scaleRound x S T) ≤ scaleRound x S T := by
        unfold clamp
        omega
      have := Int.mul_le_mul_of_nonneg_right (show p ≤ scaleRound x S T + radius by omega) logical.le
      obtain ⟨_, right⟩ := reaches
      linarith
  refine Int.lt_of_add_one_le (Int.le_ediv_of_mul_le logical ?_)
  linarith

/-- The scaled extent of a part of the canvas lies on the panel. -/
theorem scaled_mem (lo hi : Int) : 0 ≤ scaleFloor (clamp 0 S lo) S T ∧ scaleCeil (clamp 0 S hi) S T ≤ T := by
  have start := clamp_mem (n := lo) logical
  have stop := clamp_mem (n := hi) logical
  rw [scaleFloor_eq logical physical start, scaleCeil_eq logical physical stop]
  have inside := Int.mul_le_mul_of_nonneg_right stop.2 physical.1.le
  refine ⟨Int.ediv_nonneg (Int.mul_nonneg start.1 physical.1.le) logical.le, Int.le_of_lt_add_one ?_⟩
  refine Int.ediv_lt_of_lt_mul logical ?_
  linarith

end

/-- The dimensions are `i32` values, and those of a surface are bounded. -/
structure Geometry.Fits (g : Geometry) : Prop where
  logical : g.logicalWidth ≤ i32Max ∧ g.logicalHeight ≤ i32Max
  physical : g.physicalWidth ≤ i32Max ∧ g.physicalHeight ≤ i32Max

/-- The point lies on the canvas. -/
def OnCanvas (g : Geometry) (x y : Int) : Prop := (0 ≤ x ∧ x < g.logicalWidth) ∧ 0 ≤ y ∧ y < g.logicalHeight

instance (g : Geometry) (x y : Int) : Decidable (OnCanvas g x y) := inferInstanceAs (Decidable (_ ∧ _))

/-- The end of an extent that is clipped to a canvas it meets. -/
theorem clamped_stop {lo hi p S : Int} (start : lo ≤ p) (stop : p < hi) (canvas : 0 ≤ p ∧ p < S) (fits : S ≤ i32Max) :
    saturate (clamp 0 S lo + max (clamp 0 S hi - clamp 0 S lo) 0) = clamp 0 S hi := by
  have low : i32Min ≤ 0 := by decide
  unfold clamp
  rw [Rect.saturate_eq (by omega) (by omega)]
  omega

/-- The end of a rectangle that is built from its two ends. -/
theorem scaled_stop {start stop p : Int} (inside : start ≤ p ∧ p < stop) (least : 0 ≤ start) (fits : stop ≤ i32Max) :
    p < saturate (start + wrap (stop - start)) := by
  have low : i32Min ≤ 0 := by decide
  rw [Rect.wrap_eq (by omega) (by omega), Rect.saturate_eq (by omega) (by omega)]
  omega

variable {g : Geometry}

/-- A panel pixel lies in the scaled rectangle if it lies in both scaled extents of it. -/
theorem logicalToPhysicalRect_covers (fits : g.Fits) {rect : Rect} {x y px py : Int}
    (canvas : OnCanvas g x y) (point : rect.Covers x y)
    (columns : scaleFloor (clamp 0 g.logicalWidth rect.x) g.logicalWidth g.physicalWidth ≤ px ∧
      px < scaleCeil (clamp 0 g.logicalWidth rect.right) g.logicalWidth g.physicalWidth)
    (rows : scaleFloor (clamp 0 g.logicalHeight rect.y) g.logicalHeight g.physicalHeight ≤ py ∧
      py < scaleCeil (clamp 0 g.logicalHeight rect.bottom) g.logicalHeight g.physicalHeight) :
    (g.logicalToPhysicalRect rect).Covers px py := by
  have clipped : (rect.clip g.logicalWidth g.logicalHeight).Covers x y := by
    obtain ⟨_, left, right, top, bottom⟩ := point
    exact (Rect.clip_covers fits.logical.1 fits.logical.2).mpr
      ⟨⟨left, right, canvas.1.1, canvas.1.2⟩, top, bottom, canvas.2.1, canvas.2.2⟩
  have across := scaled_mem g.logical.1 ⟨g.physical.1, fits.physical.1⟩ rect.x rect.right
  have down := scaled_mem g.logical.2 ⟨g.physical.2, fits.physical.2⟩ rect.y rect.bottom
  have broad := fits.physical.1
  have tall := fits.physical.2
  obtain ⟨left, right, top, bottom⟩ := point.2
  have rightmost : (rect.clip g.logicalWidth g.logicalHeight).right = clamp 0 g.logicalWidth rect.right :=
    clamped_stop left right canvas.1 fits.logical.1
  have lowest : (rect.clip g.logicalWidth g.logicalHeight).bottom = clamp 0 g.logicalHeight rect.bottom :=
    clamped_stop top bottom canvas.2 fits.logical.2
  unfold Geometry.logicalToPhysicalRect
  simp only [clipped.1, Bool.false_eq_true, if_false, rightmost, lowest]
  refine (Rect.clip_covers broad tall).mpr ⟨⟨columns.1, ?_, by omega, by omega⟩, rows.1, ?_, by omega, by omega⟩
  · exact scaled_stop columns across.1 (across.2.trans broad)
  · exact scaled_stop rows down.1 (down.2.trans tall)

/-! ## What a rectangle of the canvas reaches -/

/-- The pixel lies in the panel's extents of the rectangle, which has a point on the canvas. -/
structure Reached (g : Geometry) (rect : Rect) (px py : Int) : Prop where
  canvas : ∃ x y, OnCanvas g x y ∧ rect.Covers x y
  columns : scaleFloor (clamp 0 g.logicalWidth rect.x) g.logicalWidth g.physicalWidth ≤ px ∧
    px < scaleCeil (clamp 0 g.logicalWidth rect.right) g.logicalWidth g.physicalWidth
  rows : scaleFloor (clamp 0 g.logicalHeight rect.y) g.logicalHeight g.physicalHeight ≤ py ∧
    py < scaleCeil (clamp 0 g.logicalHeight rect.bottom) g.logicalHeight g.physicalHeight

theorem Reached.covers (fits : g.Fits) {rect : Rect} {px py : Int} (reached : Reached g rect px py) :
    (g.logicalToPhysicalRect rect).Covers px py := by
  obtain ⟨x, y, canvas, point⟩ := reached.canvas
  exact logicalToPhysicalRect_covers fits canvas point reached.columns reached.rows

theorem scale_mono {S T : Int} (logical : 0 < S) (physical : 0 < T ∧ T ≤ i32Max) {n m : Int} (before : n ≤ m) :
    scaleFloor (clamp 0 S n) S T ≤ scaleFloor (clamp 0 S m) S T ∧
      scaleCeil (clamp 0 S n) S T ≤ scaleCeil (clamp 0 S m) S T := by
  have clamped : clamp 0 S n ≤ clamp 0 S m := by
    unfold clamp
    omega
  have scaled := Int.mul_le_mul_of_nonneg_right clamped physical.1.le
  rw [scaleFloor_eq logical physical (clamp_mem logical), scaleFloor_eq logical physical (clamp_mem logical),
    scaleCeil_eq logical physical (clamp_mem logical), scaleCeil_eq logical physical (clamp_mem logical)]
  exact ⟨Int.ediv_le_ediv logical scaled, Int.ediv_le_ediv logical (by omega)⟩

/-- A rectangle that covers another has wider extents. -/
theorem wider_extents {rect wider : Rect} {x y : Int} (point : rect.Covers x y)
    (within : ∀ x y, rect.Covers x y → wider.Covers x y) :
    (wider.x ≤ rect.x ∧ rect.right ≤ wider.right) ∧ wider.y ≤ rect.y ∧ rect.bottom ≤ wider.bottom := by
  obtain ⟨solid, left, right, top, bottom⟩ := point
  obtain ⟨_, first⟩ := within rect.x rect.y ⟨solid, by omega, by omega, by omega, by omega⟩
  obtain ⟨_, last⟩ := within (rect.right - 1) (rect.bottom - 1) ⟨solid, by omega, by omega, by omega, by omega⟩
  omega

theorem Reached.mono (fits : g.Fits) {rect wider : Rect} {px py : Int} (reached : Reached g rect px py)
    (within : ∀ x y, rect.Covers x y → wider.Covers x y) : Reached g wider px py := by
  obtain ⟨x, y, canvas, point⟩ := reached.canvas
  obtain ⟨⟨left, right⟩, top, bottom⟩ := wider_extents point within
  have across : 0 < g.physicalWidth ∧ g.physicalWidth ≤ i32Max := ⟨g.physical.1, fits.physical.1⟩
  have down : 0 < g.physicalHeight ∧ g.physicalHeight ≤ i32Max := ⟨g.physical.2, fits.physical.2⟩
  refine ⟨⟨x, y, canvas, within x y point⟩, ⟨?_, ?_⟩, ?_, ?_⟩
  · exact (scale_mono g.logical.1 across left).1.trans reached.columns.1
  · exact reached.columns.2.trans_le (scale_mono g.logical.1 across right).2
  · exact (scale_mono g.logical.2 down top).1.trans reached.rows.1
  · exact reached.rows.2.trans_le (scale_mono g.logical.2 down bottom).2

/-- Clipping to the canvas loses nothing of what is reached. -/
theorem Reached.clip (fits : g.Fits) {rect : Rect} {px py : Int} (reached : Reached g rect px py) :
    Reached g (rect.clip g.logicalWidth g.logicalHeight) px py := by
  obtain ⟨x, y, canvas, point⟩ := reached.canvas
  obtain ⟨_, left, right, top, bottom⟩ := point
  have clipped : (rect.clip g.logicalWidth g.logicalHeight).Covers x y :=
    (Rect.clip_covers fits.logical.1 fits.logical.2).mpr
      ⟨⟨left, right, canvas.1.1, canvas.1.2⟩, top, bottom, canvas.2.1, canvas.2.2⟩
  have stop : (rect.clip g.logicalWidth g.logicalHeight).right = clamp 0 g.logicalWidth rect.right :=
    clamped_stop left right canvas.1 fits.logical.1
  have lowest : (rect.clip g.logicalWidth g.logicalHeight).bottom = clamp 0 g.logicalHeight rect.bottom :=
    clamped_stop top bottom canvas.2 fits.logical.2
  have twice : ∀ S n : Int, clamp 0 S (clamp 0 S n) = clamp 0 S n := by
    intro S n
    unfold clamp
    omega
  refine ⟨⟨x, y, canvas, clipped⟩, ?_, ?_⟩
  · rw [stop, twice]
    simpa only [Rect.clip, twice] using reached.columns
  · rw [lowest, twice]
    simpa only [Rect.clip, twice] using reached.rows

/-- The rectangle holds the padding of a point: `reach + 3` to each side. -/
def Pads (rect : Rect) (x y reach : Int) : Prop :=
  rect.Covers (x - (reach + 3)) (y - (reach + 3)) ∧ rect.Covers (x + (reach + 3)) (y + (reach + 3))

/-- A line between two padded points, along one axis. -/
theorem line_axis {S T lo hi x0 x1 reach0 reach1 radius p : Int} (logical : 0 < S) (physical : 0 < T ∧ T ≤ i32Max)
    (canvas0 : 0 ≤ x0 ∧ x0 < S) (canvas1 : 0 ≤ x1 ∧ x1 < S)
    (padded0 : lo ≤ x0 - (reach0 + 3) ∧ x0 + (reach0 + 3) < hi)
    (padded1 : lo ≤ x1 - (reach1 + 3) ∧ x1 + (reach1 + 3) < hi)
    (reaches0 : Reaches S T reach0 radius) (reaches1 : Reaches S T reach1 radius) (panel : 0 ≤ p ∧ p < T)
    (near : min (clamp 0 (T - 1) (scaleRound x0 S T)) (clamp 0 (T - 1) (scaleRound x1 S T)) - radius ≤ p ∧
      p ≤ max (clamp 0 (T - 1) (scaleRound x0 S T)) (clamp 0 (T - 1) (scaleRound x1 S T)) + radius) :
    scaleFloor (clamp 0 S lo) S T ≤ p ∧ p < scaleCeil (clamp 0 S hi) S T := by
  have start0 := padded_start logical physical canvas0 reaches0 padded0.1 panel.1
  have start1 := padded_start logical physical canvas1 reaches1 padded1.1 panel.1
  have stop0 := padded_stop logical physical canvas0 reaches0 (show x0 + reach0 + 4 ≤ hi by omega) panel.2
  have stop1 := padded_stop logical physical canvas1 reaches1 (show x1 + reach1 + 4 ≤ hi by omega) panel.2
  constructor
  · rcases le_total (clamp 0 (T - 1) (scaleRound x0 S T)) (clamp 0 (T - 1) (scaleRound x1 S T)) with first | second
    · exact start0 (by omega)
    · exact start1 (by omega)
  · rcases le_total (clamp 0 (T - 1) (scaleRound x0 S T)) (clamp 0 (T - 1) (scaleRound x1 S T)) with first | second
    · exact stop1 (by omega)
    · exact stop0 (by omega)

/-- The padding spans the brush along both axes. -/
def Spans (g : Geometry) (reach radius : Int) : Prop :=
  Reaches g.logicalWidth g.physicalWidth reach radius ∧ Reaches g.logicalHeight g.physicalHeight reach radius

instance (g : Geometry) (reach radius : Int) : Decidable (Spans g reach radius) := inferInstanceAs (Decidable (_ ∧ _))

/-- A line drawn between two padded points is reached, when the padding of either
    spans the brush of the line. -/
theorem line_reached (fits : g.Fits) {rect : Rect} {x0 y0 x1 y1 reach0 reach1 radius px py : Int}
    (canvas0 : OnCanvas g x0 y0) (canvas1 : OnCanvas g x1 y1) (padded0 : Pads rect x0 y0 reach0)
    (padded1 : Pads rect x1 y1 reach1) (brush : -3 ≤ reach1) (spans0 : Spans g reach0 radius)
    (spans1 : Spans g reach1 radius)
    (near : Near g.physicalWidth g.physicalHeight (g.logicalToPhysicalPoint x0 y0).1 (g.logicalToPhysicalPoint x0 y0).2
      (g.logicalToPhysicalPoint x1 y1).1 (g.logicalToPhysicalPoint x1 y1).2 radius px py) : Reached g rect px py := by
  obtain ⟨⟨_, left0, _, top0, _⟩, ⟨_, _, right0, _, bottom0⟩⟩ := padded0
  obtain ⟨⟨solid, left1, _, top1, _⟩, ⟨_, _, right1, _, bottom1⟩⟩ := padded1
  obtain ⟨⟨least, most, left, right⟩, lowest, highest, top, bottom⟩ := near
  refine ⟨⟨x1, y1, canvas1, solid, by omega, by omega, by omega, by omega⟩, ?_, ?_⟩
  · exact line_axis g.logical.1 ⟨g.physical.1, fits.physical.1⟩ canvas0.1 canvas1.1 ⟨left0, right0⟩ ⟨left1, right1⟩
      spans0.1 spans1.1 ⟨least, most⟩ ⟨left, right⟩
  · exact line_axis g.logical.2 ⟨g.physical.2, fits.physical.2⟩ canvas0.2 canvas1.2 ⟨top0, bottom0⟩ ⟨top1, bottom1⟩
      spans0.2 spans1.2 ⟨lowest, highest⟩ ⟨top, bottom⟩

end Remagic.Display
