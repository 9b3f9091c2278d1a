import Remagic.Geometry
import Mathlib.Tactic.Linarith

/-!
# Damage and scaling

Damage goes from the application's canvas to the panel by rounding outwards, and the
copy of a panel pixel takes it from the canvas pixel that is nearest. Where the canvas is
enlarged twice or more, the nearest pixel reaches further than the damage does.
-/

namespace Remagic.Display

/-- The dimensions are `i32` values. -/
structure Geometry.InI32 (g : Geometry) : Prop where
  logicalWidth : g.logicalWidth ≤ i32Max
  logicalHeight : g.logicalHeight ≤ i32Max
  physicalWidth : g.physicalWidth ≤ i32Max
  physicalHeight : g.physicalHeight ≤ i32Max

/-! ## Along one axis -/

namespace Axis

/-- The canvas pixel that the panel pixel is copied from. -/
def source (size target p : Int) : Int := clamp 0 (size - 1) (scaleRound p target size)

/-- The panel pixel before the damage is not copied from the damage: the start of the damage is
    the edge of the canvas, or is not enlarged past its nearest pixel. -/
def KeepsLead (size target start : Int) : Prop := start = 0 ∨ target / 2 < size + start * target % size

instance (size target start : Int) : Decidable (KeepsLead size target start) := inferInstanceAs (Decidable (_ ∨ _))

/-- The first panel pixel that is not copied from before the start. -/
def firstShown (size target start : Int) : Int := max 0 ((start * target - target / 2 + size - 1) / size)

/-- Some panel pixel is copied from between the start and the stop. -/
def Samples (size target start stop : Int) : Prop :=
  firstShown size target start < target ∧ firstShown size target start * size + target / 2 < stop * target

instance (size target start stop : Int) : Decidable (Samples size target start stop) := inferInstanceAs (Decidable (_ ∧ _))

variable {size target start stop p : Int}

theorem scaleFloor_eq (positive : 0 < size) (wide : 0 < target) (high : target ≤ i32Max) (low : 0 ≤ start) (inside : start ≤ size) :
    scaleFloor start size target = start * target / size := by
  have product : 0 ≤ start * target := Int.mul_nonneg low wide.le
  have below : start * target / size ≤ target := by
    refine Int.ediv_le_of_le_mul positive ?_
    rw [Int.mul_comm target size]
    exact Int.mul_le_mul_of_nonneg_right inside wide.le
  unfold scaleFloor
  rw [Int.tdiv_eq_ediv_of_nonneg product, Rect.wrap_eq (Int.ediv_nonneg product positive.le) (below.trans high)]

theorem scaleCeil_eq (positive : 0 < size) (wide : 0 < target) (high : target ≤ i32Max) (low : 0 ≤ stop) (inside : stop ≤ size) :
    scaleCeil stop size target = (stop * target + size - 1) / size := by
  have product : 0 ≤ stop * target := Int.mul_nonneg low wide.le
  have below : (stop * target + size - 1) / size ≤ target := by
    refine Int.le_of_lt_add_one (Int.ediv_lt_of_lt_mul positive ?_)
    have scaled : stop * target ≤ size * target := Int.mul_le_mul_of_nonneg_right inside wide.le
    rw [Int.add_mul, Int.mul_comm target size]
    omega
  unfold scaleCeil
  rw [Int.tdiv_eq_ediv_of_nonneg (by omega), Rect.wrap_eq (Int.ediv_nonneg (by omega) positive.le) (below.trans high)]

/-- A panel pixel is copied from the nearest canvas pixel. -/
theorem source_eq (positive : 0 < size) (high : size ≤ i32Max) (low : 0 ≤ p) (inside : p < target) :
    source size target p = min (size - 1) ((p * size + target / 2) / target) := by
  have wide : 0 < target := by omega
  have product : 0 ≤ p * size := Int.mul_nonneg low positive.le
  have half : 0 ≤ target / 2 := by omega
  have below : (p * size + target / 2) / target ≤ size := by
    refine Int.le_of_lt_add_one (Int.ediv_lt_of_lt_mul wide ?_)
    have scaled : p * size ≤ target * size := Int.mul_le_mul_of_nonneg_right inside.le positive.le
    rw [Int.add_mul, Int.mul_comm size target]
    omega
  have nonneg : 0 ≤ (p * size + target / 2) / target := Int.ediv_nonneg (by omega) wide.le
  unfold source scaleRound clamp
  rw [Int.tdiv_eq_ediv_of_nonneg (by omega), Rect.wrap_eq nonneg (below.trans high)]
  omega

/-- When a panel pixel is copied from between the start and the stop. -/
theorem source_between (positive : 0 < size) (high : size ≤ i32Max) (low : 0 ≤ p) (inside : p < target)
    (ordered : start < stop) (fits : stop ≤ size) :
    start ≤ source size target p ∧ source size target p < stop ↔
      start * target ≤ p * size + target / 2 ∧ (p * size + target / 2 < stop * target ∨ stop = size) := by
  have wide : 0 < target := by omega
  rw [source_eq positive high low inside]
  have from' : start ≤ (p * size + target / 2) / target ↔ start * target ≤ p * size + target / 2 := Int.le_ediv_iff_mul_le wide
  have until' : (p * size + target / 2) / target < stop ↔ p * size + target / 2 < stop * target := Int.ediv_lt_iff_lt_mul wide
  rw [← from', ← until']
  omega

/-- The damage on the panel ends behind every pixel that is copied from the damage. -/
theorem before_ceil (positive : 0 < size) (low : 0 ≤ p) (inside : p < target)
    (shown : p * size + target / 2 < stop * target ∨ stop = size) : p < (stop * target + size - 1) / size := by
  refine Int.lt_of_lt_of_le (Int.lt_add_one_of_le (Int.le_refl p)) ?_
  refine (Int.le_ediv_iff_mul_le positive).mpr ?_
  rw [Int.add_mul, Int.one_mul]
  rcases shown with before | edge
  · have half : 0 ≤ target / 2 := by omega
    omega
  · subst edge
    have last : p * stop ≤ (target - 1) * stop := Int.mul_le_mul_of_nonneg_right (by omega) positive.le
    rw [Int.sub_mul, Int.one_mul, Int.mul_comm target stop] at last
    omega

/-- The damage on the panel starts before every pixel that is copied from the damage, where
    its lead is kept. -/
theorem floor_le (positive : 0 < size) (low : 0 ≤ p)
    (keeps : KeepsLead size target start) (shown : start * target ≤ p * size + target / 2) : start * target / size ≤ p := by
  rcases keeps with edge | near
  · subst edge
    simpa using low
  · by_contra lost
    have whole := Int.mul_ediv_add_emod (start * target) size
    have one : (p + 1) * size ≤ start * target / size * size := Int.mul_le_mul_of_nonneg_right (by omega) positive.le
    rw [Int.add_mul, Int.one_mul, Int.mul_comm (start * target / size) size] at one
    omega

/-- Where the lead is not kept, the panel pixel before the damage is copied from its start. -/
theorem lead_lost (positive : 0 < size) (wide : 0 < target) (nonneg : 0 ≤ start) (ordered : start < stop) (fits : stop ≤ size)
    (loses : ¬KeepsLead size target start) :
    let p := start * target / size - 1
    0 ≤ p ∧ p < target ∧ start * target ≤ p * size + target / 2 ∧ p * size + target / 2 < stop * target := by
  intro p
  unfold KeepsLead at loses
  obtain ⟨inner, far⟩ : start ≠ 0 ∧ size + start * target % size ≤ target / 2 := by
    refine ⟨fun edge => loses (.inl edge), ?_⟩
    by_contra near
    exact loses (.inr (by omega))
  have whole := Int.mul_ediv_add_emod (start * target) size
  have rest := Int.emod_nonneg (start * target) positive.ne'
  have little := Int.emod_lt_of_pos (start * target) positive
  have scaled : p * size = start * target - start * target % size - size := by
    show (start * target / size - 1) * size = _
    rw [Int.sub_mul, Int.one_mul, Int.mul_comm (start * target / size) size]
    omega
  have one : 1 * target ≤ start * target := Int.mul_le_mul_of_nonneg_right (by omega) wide.le
  have next : (start + 1) * target ≤ stop * target := Int.mul_le_mul_of_nonneg_right (by omega) wide.le
  rw [Int.add_mul, Int.one_mul] at next
  refine ⟨?_, ?_, ?_, ?_⟩
  · have there : 1 ≤ start * target / size := (Int.le_ediv_iff_mul_le positive).mpr (by omega)
    show 0 ≤ start * target / size - 1
    omega
  · have last : start * target < target * size := by
      rw [Int.mul_comm target size]
      exact Int.mul_lt_mul_of_pos_right (by omega) wide
    have below : start * target / size < target := Int.ediv_lt_of_lt_mul positive last
    show start * target / size - 1 < target
    omega
  · rw [scaled]
    omega
  · rw [scaled]
    omega

/-- When some panel pixel is copied from between the start and the stop. -/
theorem samples_iff (positive : 0 < size) (high : size ≤ i32Max) (wide : 0 < target) (ordered : start < stop) (fits : stop ≤ size) :
    (∃ p, 0 ≤ p ∧ p < target ∧ start ≤ source size target p ∧ source size target p < stop) ↔ Samples size target start stop := by
  have half : 0 ≤ target / 2 := by omega
  -- `firstShown` is the least of the pixels that are not before the start.
  have least : ∀ p, 0 ≤ p → (firstShown size target start ≤ p ↔ start * target ≤ p * size + target / 2) := by
    intro p low
    have quotient : (start * target - target / 2 + size - 1) / size ≤ p ↔ start * target ≤ p * size + target / 2 := by
      rw [← Int.lt_add_one_iff, Int.ediv_lt_iff_lt_mul positive, Int.add_mul, Int.one_mul]
      omega
    unfold firstShown
    rw [← quotient]
    omega
  have nonneg : 0 ≤ firstShown size target start := by
    unfold firstShown
    omega
  constructor
  · rintro ⟨p, low, inside, between⟩
    obtain ⟨from', until'⟩ := (source_between positive high low inside ordered fits).mp between
    have first := (least p low).mpr from'
    have scaled : firstShown size target start * size ≤ p * size := Int.mul_le_mul_of_nonneg_right first positive.le
    refine ⟨by omega, ?_⟩
    rcases until' with before | edge
    · omega
    · subst edge
      by_cases enlarged : stop ≤ target / 2
      · by_cases zero : firstShown stop target start = 0
        · have whole : 1 * target ≤ stop * target := Int.mul_le_mul_of_nonneg_right (by omega) wide.le
          rw [zero, Int.zero_mul]
          omega
        · -- The pixel before the first one shown is before the start.
          have before : ¬start * target ≤ (firstShown stop target start - 1) * stop + target / 2 := fun reached => by
            have earlier := (least _ (by omega)).mpr reached
            omega
          have inner : (start + 1) * target ≤ stop * target := Int.mul_le_mul_of_nonneg_right (by omega) wide.le
          rw [Int.sub_mul, Int.one_mul] at before
          rw [Int.add_mul, Int.one_mul] at inner
          omega
      · have last : p * stop ≤ (target - 1) * stop := Int.mul_le_mul_of_nonneg_right (by omega) positive.le
        rw [Int.sub_mul, Int.one_mul, Int.mul_comm target stop] at last
        omega
  · rintro ⟨inside, until'⟩
    refine ⟨firstShown size target start, nonneg, inside, ?_⟩
    exact (source_between positive high nonneg inside ordered fits).mpr ⟨(least _ nonneg).mp (Int.le_refl _), .inl until'⟩

/-- The damage on the panel is in order and on the panel. -/
theorem ordered_on_panel (positive : 0 < size) (wide : 0 < target) (low : 0 ≤ start) (ordered : start < stop) (fits : stop ≤ size) :
    0 ≤ start * target / size ∧ start * target / size ≤ (stop * target + size - 1) / size ∧
      (stop * target + size - 1) / size ≤ target := by
  have product : 0 ≤ start * target := Int.mul_nonneg low wide.le
  have more : start * target ≤ stop * target := Int.mul_le_mul_of_nonneg_right ordered.le wide.le
  have whole : stop * target ≤ size * target := Int.mul_le_mul_of_nonneg_right fits wide.le
  refine ⟨Int.ediv_nonneg product positive.le, Int.ediv_le_ediv positive (by omega), ?_⟩
  refine Int.le_of_lt_add_one (Int.ediv_lt_of_lt_mul positive ?_)
  rw [Int.add_mul, Int.one_mul, Int.mul_comm target size]
  omega

end Axis

/-! ## On the panel -/

theorem Rect.right_of_ends {start stop y height : Int} (low : i32Min ≤ stop) (high : stop ≤ i32Max) :
    (⟨start, y, stop - start, height⟩ : Rect).right = stop := by
  unfold Rect.right
  simp only
  rw [Rect.saturate_eq (by omega) (by omega)]
  omega

theorem Rect.bottom_of_ends {start stop x width : Int} (low : i32Min ≤ stop) (high : stop ≤ i32Max) :
    (⟨x, start, width, stop - start⟩ : Rect).bottom = stop := by
  unfold Rect.bottom
  simp only
  rw [Rect.saturate_eq (by omega) (by omega)]
  omega

/-- Clipping along one axis leaves an extent in order and on the canvas. -/
theorem Rect.clip_extent {start stop size : Int} (wide : 0 < size) (fits : size ≤ i32Max)
    (nonempty : 0 < max (clamp 0 size stop - clamp 0 size start) 0) :
    0 ≤ clamp 0 size start ∧ clamp 0 size start < saturate (clamp 0 size start + max (clamp 0 size stop - clamp 0 size start) 0) ∧
      saturate (clamp 0 size start + max (clamp 0 size stop - clamp 0 size start) 0) ≤ size := by
  have least : i32Min < 0 := by decide
  unfold clamp at *
  rw [Rect.saturate_eq (by omega) (by omega)]
  omega

theorem Rect.clip_bounds {r : Rect} {width height : Int} (wide : 0 < width ∧ width ≤ i32Max) (high : 0 < height ∧ height ≤ i32Max)
    (nonempty : (r.clip width height).isEmpty = false) :
    (0 ≤ (r.clip width height).x ∧ (r.clip width height).x < (r.clip width height).right ∧
      (r.clip width height).right ≤ width) ∧
    0 ≤ (r.clip width height).y ∧ (r.clip width height).y < (r.clip width height).bottom ∧
      (r.clip width height).bottom ≤ height := by
  obtain ⟨width', height'⟩ := Rect.isEmpty_eq_false.mp nonempty
  exact ⟨Rect.clip_extent wide.1 wide.2 width', Rect.clip_extent high.1 high.2 height'⟩

namespace Geometry
variable (g : Geometry)

/-- Every panel pixel that is copied from within the damage lies in the damage on the panel. -/
def Redraws (rect : Rect) : Prop :=
  ∀ px py, 0 ≤ px → px < g.physicalWidth → 0 ≤ py → py < g.physicalHeight →
    (rect.clip g.logicalWidth g.logicalHeight).Covers (g.physicalToLogicalPoint px py).1 (g.physicalToLogicalPoint px py).2 →
    (g.logicalToPhysicalRect rect).Covers px py

/-- Along either axis the lead of the damage is kept, as far as the damage is shown along the other. -/
def KeepsEdges (rect : Rect) : Prop :=
  let damage := rect.clip g.logicalWidth g.logicalHeight
  damage.isEmpty = false →
    (Axis.Samples g.logicalHeight g.physicalHeight damage.y damage.bottom →
      Axis.KeepsLead g.logicalWidth g.physicalWidth damage.x) ∧
    (Axis.Samples g.logicalWidth g.physicalWidth damage.x damage.right →
      Axis.KeepsLead g.logicalHeight g.physicalHeight damage.y)

variable {g} {rect : Rect} {px py : Int}

/-- The pixels of the damage on the panel. -/
theorem physicalRect_covers (dimensions : g.InI32) (nonempty : (rect.clip g.logicalWidth g.logicalHeight).isEmpty = false)
    (left : 0 ≤ px) (right : px < g.physicalWidth) (top : 0 ≤ py) (bottom : py < g.physicalHeight) :
    let damage := rect.clip g.logicalWidth g.logicalHeight
    (g.logicalToPhysicalRect rect).Covers px py ↔
      (damage.x * g.physicalWidth / g.logicalWidth ≤ px ∧
        px < (damage.right * g.physicalWidth + g.logicalWidth - 1) / g.logicalWidth) ∧
      damage.y * g.physicalHeight / g.logicalHeight ≤ py ∧
        py < (damage.bottom * g.physicalHeight + g.logicalHeight - 1) / g.logicalHeight := by
  intro damage
  obtain ⟨⟨west, across, east⟩, north, down, south⟩ : (0 ≤ damage.x ∧ damage.x < damage.right ∧ damage.right ≤ g.logicalWidth) ∧
      0 ≤ damage.y ∧ damage.y < damage.bottom ∧ damage.bottom ≤ g.logicalHeight :=
    Rect.clip_bounds ⟨g.logical.1, dimensions.logicalWidth⟩ ⟨g.logical.2, dimensions.logicalHeight⟩ nonempty
  obtain ⟨low, wide, high⟩ := Axis.ordered_on_panel g.logical.1 g.physical.1 west across east
  obtain ⟨low', tall, high'⟩ := Axis.ordered_on_panel g.logical.2 g.physical.2 north down south
  have most := dimensions.physicalWidth
  have most' := dimensions.physicalHeight
  have least : i32Min < 0 := by decide
  have same : g.logicalToPhysicalRect rect = Rect.clip ⟨damage.x * g.physicalWidth / g.logicalWidth,
      damage.y * g.physicalHeight / g.logicalHeight,
      (damage.right * g.physicalWidth + g.logicalWidth - 1) / g.logicalWidth - damage.x * g.physicalWidth / g.logicalWidth,
      (damage.bottom * g.physicalHeight + g.logicalHeight - 1) / g.logicalHeight -
        damage.y * g.physicalHeight / g.logicalHeight⟩ g.physicalWidth g.physicalHeight := by
    unfold logicalToPhysicalRect
    simp only [nonempty, Bool.false_eq_true, if_false]
    rw [Axis.scaleFloor_eq g.logical.1 g.physical.1 most west (by omega), Axis.scaleFloor_eq g.logical.2 g.physical.2 most' north (by omega),
      Axis.scaleCeil_eq g.logical.1 g.physical.1 most (by omega) east, Axis.scaleCeil_eq g.logical.2 g.physical.2 most' (by omega) south,
      Rect.wrap_eq (by omega) (by omega), Rect.wrap_eq (by omega) (by omega)]
  rw [same, Rect.clip_covers most most', Rect.right_of_ends (by omega) (by omega), Rect.bottom_of_ends (by omega) (by omega)]
  simp only
  omega

/-- The panel pixels that are copied from the damage. -/
theorem source_covers (nonempty : (rect.clip g.logicalWidth g.logicalHeight).isEmpty = false) :
    let damage := rect.clip g.logicalWidth g.logicalHeight
    damage.Covers (g.physicalToLogicalPoint px py).1 (g.physicalToLogicalPoint px py).2 ↔
      (damage.x ≤ Axis.source g.logicalWidth g.physicalWidth px ∧ Axis.source g.logicalWidth g.physicalWidth px < damage.right) ∧
      damage.y ≤ Axis.source g.logicalHeight g.physicalHeight py ∧
        Axis.source g.logicalHeight g.physicalHeight py < damage.bottom := by
  intro damage
  constructor
  · rintro ⟨-, west, east, north, south⟩
    exact ⟨⟨west, east⟩, north, south⟩
  · rintro ⟨⟨west, east⟩, north, south⟩
    exact ⟨nonempty, west, east, north, south⟩

/-- Presenting the damage redraws every panel pixel that is copied from it exactly where the
    leads of the damage are kept. -/
theorem redraws_iff (g : Geometry) (dimensions : g.InI32) (rect : Rect) : g.Redraws rect ↔ g.KeepsEdges rect := by
  by_cases empty : (rect.clip g.logicalWidth g.logicalHeight).isEmpty = true
  · constructor
    · intro _ nonempty
      rw [empty] at nonempty
      cases nonempty
    · rintro _ px py _ _ _ _ ⟨nonempty, -⟩
      rw [empty] at nonempty
      cases nonempty
  have nonempty : (rect.clip g.logicalWidth g.logicalHeight).isEmpty = false := by simpa using empty
  obtain ⟨⟨west, across, east⟩, north, down, south⟩ :=
    Rect.clip_bounds ⟨g.logical.1, dimensions.logicalWidth⟩ ⟨g.logical.2, dimensions.logicalHeight⟩ nonempty
  have columns := Axis.samples_iff g.logical.1 dimensions.logicalWidth g.physical.1 across east
  have rows := Axis.samples_iff g.logical.2 dimensions.logicalHeight g.physical.2 down south
  constructor
  · intro redraws _
    constructor
    · intro sampled
      by_contra loses
      obtain ⟨py, top, bottom, between⟩ := rows.mpr sampled
      obtain ⟨left, right, from', until'⟩ := Axis.lead_lost g.logical.1 g.physical.1 west across east loses
      have shown := (Axis.source_between g.logical.1 dimensions.logicalWidth left right across east).mpr ⟨from', .inl until'⟩
      have inside := redraws _ py left right top bottom ((source_covers nonempty).mpr ⟨shown, between⟩)
      have drawn := ((physicalRect_covers dimensions nonempty left right top bottom).mp inside).1.1
      omega
    · intro sampled
      by_contra loses
      obtain ⟨px, left, right, between⟩ := columns.mpr sampled
      obtain ⟨top, bottom, from', until'⟩ := Axis.lead_lost g.logical.2 g.physical.2 north down south loses
      have shown := (Axis.source_between g.logical.2 dimensions.logicalHeight top bottom down south).mpr ⟨from', .inl until'⟩
      have inside := redraws px _ left right top bottom ((source_covers nonempty).mpr ⟨between, shown⟩)
      have drawn := ((physicalRect_covers dimensions nonempty left right top bottom).mp inside).2.1
      omega
  · intro keeps px py left right top bottom inside
    obtain ⟨between, between'⟩ := (source_covers nonempty).mp inside
    obtain ⟨keepsColumns, keepsRows⟩ := keeps nonempty
    have column := keepsColumns (rows.mp ⟨py, top, bottom, between'⟩)
    have row := keepsRows (columns.mp ⟨px, left, right, between⟩)
    obtain ⟨from', until'⟩ := (Axis.source_between g.logical.1 dimensions.logicalWidth left right across east).mp between
    obtain ⟨from'', until''⟩ := (Axis.source_between g.logical.2 dimensions.logicalHeight top bottom down south).mp between'
    refine (physicalRect_covers dimensions nonempty left right top bottom).mpr ⟨⟨?_, ?_⟩, ?_, ?_⟩
    · exact Axis.floor_le g.logical.1 left column from'
    · exact Axis.before_ceil g.logical.1 left right until'
    · exact Axis.floor_le g.logical.2 top row from''
    · exact Axis.before_ceil g.logical.2 top bottom until''

/-- A canvas that is enlarged less than twice keeps every lead. -/
theorem keepsEdges_of_mild (wide : g.physicalWidth < 2 * g.logicalWidth) (tall : g.physicalHeight < 2 * g.logicalHeight)
    (rect : Rect) : g.KeepsEdges rect := by
  have lead : ∀ {size target : Int}, 0 < size → target < 2 * size → ∀ start, Axis.KeepsLead size target start := by
    intro size target positive mild start
    have rest := Int.emod_nonneg (start * target) positive.ne'
    exact .inr (by omega)
  exact fun _ => ⟨fun _ => lead g.logical.1 wide _, fun _ => lead g.logical.2 tall _⟩

/-- The canvas of an application on the panel. -/
def moveCanvas : Geometry := ⟨954, 1696, 960, 1696, by decide, by decide⟩

theorem moveCanvas_redraws : moveCanvas.Redraws ⟨100, 100, 10, 10⟩ :=
  (redraws_iff moveCanvas (by constructor <;> decide) ⟨100, 100, 10, 10⟩).mpr
    (keepsEdges_of_mild (by decide) (by decide) ⟨100, 100, 10, 10⟩)

/-- A small canvas, which the panel enlarges. -/
def smallCanvas : Geometry := ⟨100, 100, 960, 1696, by decide, by decide⟩

/-- The sixth column of the panel is copied from the second one of a small canvas, and is not
    redrawn when that column changes. -/
theorem smallCanvas_loses_column : smallCanvas.InI32 ∧ smallCanvas.physicalToLogicalPoint 5 0 = (1, 0) ∧
    ¬smallCanvas.Redraws ⟨1, 0, 1, 100⟩ := by
  refine ⟨by constructor <;> decide, by decide, fun redraws => ?_⟩
  have drawn := redraws 5 0 (by decide) (by decide) (by decide) (by decide) (by decide)
  revert drawn
  decide

end Geometry
end Remagic.Display
