import Mathlib.Tactic.Common
import Mathlib.Order.Lattice

/-!
# Rectangles and scaling

The rectangles of damage and ink and the mapping between an application's
logical canvas and the vendor framebuffer. The source computes in `i32`: an
operation that saturates there saturates here, and one that wraps in a release
build wraps here.
-/

namespace Remagic.Display

def i32Min : Int := -2147483648
def i32Max : Int := 2147483647

/-- The result of a saturating `i32` operation. -/
def saturate (n : Int) : Int := max i32Min (min i32Max n)

/-- The result of a plain `i32` operation, which wraps in a release build. -/
def wrap (n : Int) : Int := n.bmod 4294967296

def clamp (lo hi n : Int) : Int := max lo (min hi n)

/-- The values of the range `lo..hi`. -/
def span (lo hi : Int) : List Int := (List.range (hi - lo).toNat).map fun step : Nat => lo + step

theorem mem_span {lo hi n : Int} : n ∈ span lo hi ↔ lo ≤ n ∧ n < hi := by
  simp only [span, List.mem_map, List.mem_range]
  constructor
  · rintro ⟨step, bound, rfl⟩
    omega
  · rintro ⟨above, below⟩
    exact ⟨(n - lo).toNat, by omega, by omega⟩

structure Rect where
  x : Int
  y : Int
  width : Int
  height : Int
deriving DecidableEq, Repr, Inhabited

namespace Rect

def isEmpty (r : Rect) : Bool := r.width ≤ 0 || r.height ≤ 0

def right (r : Rect) : Int := saturate (r.x + r.width)

def bottom (r : Rect) : Int := saturate (r.y + r.height)

def clip (r : Rect) (width height : Int) : Rect :=
  let x0 := clamp 0 width r.x
  let y0 := clamp 0 height r.y
  let x1 := clamp 0 width r.right
  let y1 := clamp 0 height r.bottom
  ⟨x0, y0, max (x1 - x0) 0, max (y1 - y0) 0⟩

def union (r other : Rect) : Rect :=
  if r.isEmpty then other
  else if other.isEmpty then r
  else
    let x0 := min r.x other.x
    let y0 := min r.y other.y
    let x1 := max r.right other.right
    let y1 := max r.bottom other.bottom
    ⟨x0, y0, wrap (x1 - x0), wrap (y1 - y0)⟩

def expand (r : Rect) (amount : Int) : Rect :=
  if r.isEmpty then r
  else
    ⟨saturate (r.x - amount), saturate (r.y - amount),
      saturate (r.width + saturate (amount * 2)), saturate (r.height + saturate (amount * 2))⟩

/-- The pixels of a rectangle: none when it is empty. -/
def Covers (r : Rect) (x y : Int) : Prop :=
  r.isEmpty = false ∧ r.x ≤ x ∧ x < r.right ∧ r.y ≤ y ∧ y < r.bottom

instance (r : Rect) (x y : Int) : Decidable (r.Covers x y) := inferInstanceAs (Decidable (_ ∧ _))

/-- The extents of the union are `i32` values, so that neither subtraction wraps. -/
def UnionFits (r other : Rect) : Prop :=
  r.isEmpty = false → other.isEmpty = false →
    max r.right other.right - min r.x other.x ≤ i32Max ∧
    max r.bottom other.bottom - min r.y other.y ≤ i32Max

instance (r other : Rect) : Decidable (r.UnionFits other) := inferInstanceAs (Decidable (_ → _))

theorem isEmpty_default : (default : Rect).isEmpty = true := by decide

theorem not_covers_default (x y : Int) : ¬ (default : Rect).Covers x y := by
  simp [Covers, isEmpty_default]

theorem isEmpty_eq_false {r : Rect} : r.isEmpty = false ↔ 0 < r.width ∧ 0 < r.height := by
  simp [isEmpty]

theorem right_le (r : Rect) : r.right ≤ i32Max := by
  have := min_le_left i32Max (r.x + r.width)
  exact max_le (by decide) this

theorem bottom_le (r : Rect) : r.bottom ≤ i32Max := by
  have := min_le_left i32Max (r.y + r.height)
  exact max_le (by decide) this

theorem le_right (r : Rect) : i32Min ≤ r.right := le_max_left _ _

theorem le_bottom (r : Rect) : i32Min ≤ r.bottom := le_max_left _ _

theorem saturate_eq {n : Int} (low : i32Min ≤ n) (high : n ≤ i32Max) : saturate n = n := by
  simp [saturate, low, high]

theorem wrap_eq {n : Int} (low : 0 ≤ n) (high : n ≤ i32Max) : wrap n = n := by
  unfold wrap i32Max at *
  exact Int.bmod_eq_of_le (by omega) (by omega)

/-- Where its extents fit, the union covers what either rectangle covers. -/
theorem union_covers {r other : Rect} (fits : r.UnionFits other) {x y : Int}
    (inside : r.Covers x y ∨ other.Covers x y) : (r.union other).Covers x y := by
  unfold union
  by_cases empty : r.isEmpty = true
  · rw [if_pos empty]
    rcases inside with inside | inside
    · exact absurd empty (by simp [inside.1])
    · exact inside
  rw [if_neg empty]
  by_cases void : other.isEmpty = true
  · rw [if_pos void]
    rcases inside with inside | inside
    · exact inside
    · exact absurd void (by simp [inside.1])
  rw [if_neg void]
  obtain ⟨wide, high⟩ := fits (by simpa using empty) (by simpa using void)
  have rights := r.right_le
  have others := other.right_le
  have bottoms := r.bottom_le
  have lowest := other.bottom_le
  have least := r.le_right
  have floor := r.le_bottom
  -- The pixel lies between the smallest start and the largest end.
  have bounds : min r.x other.x ≤ x ∧ x < max r.right other.right ∧
      min r.y other.y ≤ y ∧ y < max r.bottom other.bottom := by
    rcases inside with ⟨_, left, right, top, bottom⟩ | ⟨_, left, right, top, bottom⟩ <;> omega
  have width := wrap_eq (n := max r.right other.right - min r.x other.x) (by omega) wide
  have height := wrap_eq (n := max r.bottom other.bottom - min r.y other.y) (by omega) high
  simp only [width, height]
  have far : saturate (min r.x other.x + (max r.right other.right - min r.x other.x)) = max r.right other.right := by
    rw [saturate_eq (by omega) (by omega)]
    omega
  have low : saturate (min r.y other.y + (max r.bottom other.bottom - min r.y other.y)) =
      max r.bottom other.bottom := by
    rw [saturate_eq (by omega) (by omega)]
    omega
  refine ⟨isEmpty_eq_false.mpr ⟨?_, ?_⟩, bounds.1, ?_, bounds.2.2.1, ?_⟩
  · show 0 < max r.right other.right - min r.x other.x
    omega
  · show 0 < max r.bottom other.bottom - min r.y other.y
    omega
  · show x < saturate _
    rw [far]
    exact bounds.2.1
  · show y < saturate _
    rw [low]
    exact bounds.2.2.2

/-- Clipping along one axis: an extent from `start` to `stop` on a canvas of size `size`. -/
theorem clip_axis {start stop size p : Int} (fits : size ≤ i32Max) :
    (0 < max (clamp 0 size stop - clamp 0 size start) 0 ∧ clamp 0 size start ≤ p ∧
      p < saturate (clamp 0 size start + max (clamp 0 size stop - clamp 0 size start) 0)) ↔
    start ≤ p ∧ p < stop ∧ 0 ≤ p ∧ p < size := by
  have small : i32Min ≤ 0 := by decide
  have ends : saturate (clamp 0 size start + max (clamp 0 size stop - clamp 0 size start) 0) =
      max (clamp 0 size start) (clamp 0 size stop) ∨ size < 0 := by
    by_cases negative : size < 0
    · exact .inr negative
    · left
      unfold clamp
      rw [saturate_eq (by omega) (by omega)]
      omega
  rcases ends with ends | negative
  · rw [ends]
    unfold clamp
    omega
  · unfold clamp saturate
    omega

/-- Clipping keeps exactly the pixels inside the canvas. -/
theorem clip_covers {r : Rect} {width height : Int} (wide : width ≤ i32Max) (high : height ≤ i32Max) {x y : Int} :
    (r.clip width height).Covers x y ↔
      (r.x ≤ x ∧ x < r.right ∧ 0 ≤ x ∧ x < width) ∧ r.y ≤ y ∧ y < r.bottom ∧ 0 ≤ y ∧ y < height := by
  rw [← clip_axis wide, ← clip_axis high]
  simp only [Covers, isEmpty_eq_false, clip, right, bottom]
  tauto

end Rect

/-- Mapping between an application's logical canvas and the vendor framebuffer.
    `Geometry::new` refuses dimensions that are not positive. -/
structure Geometry where
  logicalWidth : Int
  logicalHeight : Int
  physicalWidth : Int
  physicalHeight : Int
  logical : 0 < logicalWidth ∧ 0 < logicalHeight
  physical : 0 < physicalWidth ∧ 0 < physicalHeight

/-- The `as i32` that ends each scaling keeps the low 32 bits. -/
def scaleRound (value source target : Int) : Int := wrap ((value * target + source / 2).tdiv source)

def scaleFloor (value source target : Int) : Int := wrap ((value * target).tdiv source)

def scaleCeil (value source target : Int) : Int := wrap ((value * target + source - 1).tdiv source)

namespace Geometry
variable (g : Geometry)

def logicalToPhysicalPoint (x y : Int) : Int × Int :=
  (clamp 0 (g.physicalWidth - 1) (scaleRound x g.logicalWidth g.physicalWidth),
    clamp 0 (g.physicalHeight - 1) (scaleRound y g.logicalHeight g.physicalHeight))

def physicalToLogicalPoint (x y : Int) : Int × Int :=
  (clamp 0 (g.logicalWidth - 1) (scaleRound x g.physicalWidth g.logicalWidth),
    clamp 0 (g.logicalHeight - 1) (scaleRound y g.physicalHeight g.logicalHeight))

def logicalToPhysicalRect (rect : Rect) : Rect :=
  let rect := rect.clip g.logicalWidth g.logicalHeight
  if rect.isEmpty then rect
  else
    let x0 := scaleFloor rect.x g.logicalWidth g.physicalWidth
    let y0 := scaleFloor rect.y g.logicalHeight g.physicalHeight
    let x1 := scaleCeil rect.right g.logicalWidth g.physicalWidth
    let y1 := scaleCeil rect.bottom g.logicalHeight g.physicalHeight
    Rect.clip ⟨x0, y0, wrap (x1 - x0), wrap (y1 - y0)⟩ g.physicalWidth g.physicalHeight

end Geometry
end Remagic.Display
