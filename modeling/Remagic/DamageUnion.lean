import Mathlib.Order.MinMax
import Remagic.PanelDamage

/-!
# Merged damage

Rectangles of damage that wait are merged before they are clipped. The sides of a merged
rectangle are differences of coordinates, which are `i32` values only where the
rectangles are close enough to each other.
-/

namespace Remagic.Display

/-- The fields are `i32` values. -/
structure Rect.InI32 (r : Rect) : Prop where
  x : i32Min ≤ r.x ∧ r.x ≤ i32Max
  y : i32Min ≤ r.y ∧ r.y ≤ i32Max
  width : i32Min ≤ r.width ∧ r.width ≤ i32Max
  height : i32Min ≤ r.height ∧ r.height ≤ i32Max

namespace Rect

/-- What `union` computes by plain `i32` subtractions. -/
def differences (r other : Rect) : List Int :=
  if r.isEmpty || other.isEmpty then []
  else [max r.right other.right - min r.x other.x, max r.bottom other.bottom - min r.y other.y]

def Overflows (r other : Rect) : Prop := ∃ difference ∈ r.differences other, difference < i32Min ∨ i32Max < difference

/-- The first rectangle ends within reach of where the second one starts. -/
def Reaches (r other : Rect) : Prop :=
  r.isEmpty = false → other.isEmpty = false → r.right - other.x ≤ i32Max ∧ r.bottom - other.y ≤ i32Max

instance (r other : Rect) : Decidable (r.Reaches other) := inferInstanceAs (Decidable (_ → _))

variable {r other : Rect}

theorem x_le_right (nonempty : r.isEmpty = false) (fields : r.InI32) : r.x ≤ r.right := by
  obtain ⟨wide, -⟩ := isEmpty_eq_false.mp nonempty
  have high := fields.x.2
  have low := fields.x.1
  unfold right saturate
  omega

theorem y_le_bottom (nonempty : r.isEmpty = false) (fields : r.InI32) : r.y ≤ r.bottom := by
  obtain ⟨-, tall⟩ := isEmpty_eq_false.mp nonempty
  have high := fields.y.2
  have low := fields.y.1
  unfold bottom saturate
  omega

/-- A rectangle is within its own reach. -/
theorem reaches_self (fields : r.InI32) : r.Reaches r := by
  intro nonempty _
  obtain ⟨wide, tall⟩ := isEmpty_eq_false.mp nonempty
  have xs := fields.x
  have ys := fields.y
  have widths := fields.width
  have heights := fields.height
  unfold right bottom saturate
  unfold i32Min i32Max at *
  omega

theorem not_overflows_iff (fields : r.InI32) (others : other.InI32) :
    ¬r.Overflows other ↔ r.Reaches other ∧ other.Reaches r := by
  unfold Overflows differences
  by_cases empty : r.isEmpty || other.isEmpty
  · have gone : r.isEmpty = true ∨ other.isEmpty = true := by simpa using empty
    rw [if_pos empty]
    constructor
    · intro _
      constructor
      · intro some' more
        rcases gone with gone | gone
        · exact absurd gone (by simp [some'])
        · exact absurd gone (by simp [more])
      · intro more some'
        rcases gone with gone | gone
        · exact absurd gone (by simp [some'])
        · exact absurd gone (by simp [more])
    · rintro _ ⟨difference, member, _⟩
      cases member
  · have some' : r.isEmpty = false := by
      by_contra gone
      exact empty (by simp [gone])
    have more : other.isEmpty = false := by
      by_contra gone
      exact empty (by simp [gone])
    have self := reaches_self fields some' some'
    have selves := reaches_self others more more
    have right := x_le_right some' fields
    have rights := x_le_right more others
    have bottom := y_le_bottom some' fields
    have bottoms := y_le_bottom more others
    have least : i32Min < 0 := by decide
    rw [if_neg empty]
    simp only [List.mem_cons, List.not_mem_nil, or_false, exists_eq_or_imp, exists_eq_left, Reaches, some', more, true_imp_iff]
    omega

theorem unionFits_of_reaches (fields : r.InI32) (others : other.InI32) (reaches : r.Reaches other) (back : other.Reaches r) :
    r.UnionFits other := by
  intro some' more
  have self := reaches_self fields some' some'
  have selves := reaches_self others more more
  have there := reaches some' more
  have here := back more some'
  omega

/-- Where its differences fit, the union runs from the first of the starts to the last of the ends. -/
theorem union_sides (fields : r.InI32) (others : other.InI32) (some' : r.isEmpty = false) (more : other.isEmpty = false)
    (fits : r.UnionFits other) :
    (r.union other).x = min r.x other.x ∧ (r.union other).y = min r.y other.y ∧
      (r.union other).right = max r.right other.right ∧ (r.union other).bottom = max r.bottom other.bottom ∧
      (r.union other).InI32 := by
  obtain ⟨wide, high⟩ := fits some' more
  have right := x_le_right some' fields
  have rights := x_le_right more others
  have bottom := y_le_bottom some' fields
  have bottoms := y_le_bottom more others
  have far := r.right_le
  have fars := other.right_le
  have low := r.bottom_le
  have lows := other.bottom_le
  have xs := fields.x
  have xs' := others.x
  have ys := fields.y
  have ys' := others.y
  have width := wrap_eq (n := max r.right other.right - min r.x other.x) (by omega) wide
  have height := wrap_eq (n := max r.bottom other.bottom - min r.y other.y) (by omega) high
  have merged : r.union other = ⟨min r.x other.x, min r.y other.y, max r.right other.right - min r.x other.x,
      max r.bottom other.bottom - min r.y other.y⟩ := by
    unfold union
    rw [if_neg (by simp [some']), if_neg (by simp [more])]
    simp only [width, height]
  have least : i32Min < 0 := by decide
  rw [merged]
  refine ⟨rfl, rfl, ?_, ?_, ⟨?_, ?_, ?_, ?_⟩⟩
  · show saturate (min r.x other.x + (max r.right other.right - min r.x other.x)) = _
    rw [saturate_eq (by omega) (by omega)]
    omega
  · show saturate (min r.y other.y + (max r.bottom other.bottom - min r.y other.y)) = _
    rw [saturate_eq (by omega) (by omega)]
    omega
  · show i32Min ≤ min r.x other.x ∧ min r.x other.x ≤ i32Max
    omega
  · show i32Min ≤ min r.y other.y ∧ min r.y other.y ≤ i32Max
    omega
  · show i32Min ≤ max r.right other.right - min r.x other.x ∧ max r.right other.right - min r.x other.x ≤ i32Max
    omega
  · show i32Min ≤ max r.bottom other.bottom - min r.y other.y ∧ max r.bottom other.bottom - min r.y other.y ≤ i32Max
    omega

/-- Within the panel the first rectangle has all that the second one has. -/
def Contains (r other : Rect) : Prop :=
  ∀ width height, width ≤ i32Max → height ≤ i32Max → ∀ x y, (other.clip width height).Covers x y → (r.clip width height).Covers x y

theorem contains_of_covers (others : other.InI32) (covers : ∀ x y, other.Covers x y → r.Covers x y) : r.Contains other := by
  intro width height wide high x y inside
  obtain ⟨⟨left, right, west, east⟩, top, bottom, north, south⟩ := (clip_covers wide high).mp inside
  have xs := others.x
  have ys := others.y
  have nonempty : other.isEmpty = false := by
    refine isEmpty_eq_false.mpr ⟨?_, ?_⟩
    · unfold Rect.right saturate at right
      omega
    · unfold Rect.bottom saturate at bottom
      omega
  obtain ⟨-, left, right, top, bottom⟩ := covers x y ⟨nonempty, left, right, top, bottom⟩
  exact (clip_covers wide high).mpr ⟨⟨left, right, west, east⟩, top, bottom, north, south⟩

/-- The union of two rectangles is computed without overflow, and has both. -/
structure Unites (r other : Rect) : Prop where
  exact : ¬r.Overflows other
  first : (r.union other).Contains r
  second : (r.union other).Contains other

theorem unites_iff (fields : r.InI32) (others : other.InI32) : r.Unites other ↔ r.Reaches other ∧ other.Reaches r := by
  constructor
  · intro unites
    exact (not_overflows_iff fields others).mp unites.exact
  · rintro ⟨reaches, back⟩
    have fits := unionFits_of_reaches fields others reaches back
    constructor
    · exact (not_overflows_iff fields others).mpr ⟨reaches, back⟩
    · exact contains_of_covers fields fun x y inside => union_covers fits (.inl inside)
    · exact contains_of_covers others fun x y inside => union_covers fits (.inr inside)

/-! ## Many rectangles -/

/-- Each of the rectangles unites with what the ones before it have been merged to. -/
def AllUnite : Rect → List Rect → Prop
  | _, [] => True
  | merged, rect :: rest => merged.Unites rect ∧ AllUnite (merged.union rect) rest

/-- The sides of the merged rectangle are sides of rectangles that were merged, and it
    covers what they cover. -/
structure Merges (merged : Rect) (rects : List Rect) : Prop where
  fields : merged.InI32
  x : merged.isEmpty = false → ∃ rect ∈ rects, rect.isEmpty = false ∧ rect.x = merged.x
  y : merged.isEmpty = false → ∃ rect ∈ rects, rect.isEmpty = false ∧ rect.y = merged.y
  right : merged.isEmpty = false → ∃ rect ∈ rects, rect.isEmpty = false ∧ rect.right = merged.right
  bottom : merged.isEmpty = false → ∃ rect ∈ rects, rect.isEmpty = false ∧ rect.bottom = merged.bottom
  covers : ∀ rect ∈ rects, ∀ x y, rect.Covers x y → merged.Covers x y

variable {merged rect : Rect} {rects rest : List Rect}

theorem merges_single (fields : rect.InI32) : Merges rect [rect] where
  fields := fields
  x some' := ⟨rect, List.mem_singleton_self _, some', rfl⟩
  y some' := ⟨rect, List.mem_singleton_self _, some', rfl⟩
  right some' := ⟨rect, List.mem_singleton_self _, some', rfl⟩
  bottom some' := ⟨rect, List.mem_singleton_self _, some', rfl⟩
  covers other member x y inside := by
    obtain rfl := List.mem_singleton.mp member
    exact inside

/-- What is merged reaches what each of its rectangles reaches. -/
theorem Merges.reaches (merges : Merges merged rects) (each : ∀ other ∈ rects, other.Reaches rect) : merged.Reaches rect := by
  intro some' more
  obtain ⟨last, there, lasts, right⟩ := merges.right some'
  obtain ⟨lowest, there', lowests, bottom⟩ := merges.bottom some'
  have wide := (each last there lasts more).1
  have tall := (each lowest there' lowests more).2
  omega

theorem Merges.reached (merges : Merges merged rects) (each : ∀ other ∈ rects, rect.Reaches other) : rect.Reaches merged := by
  intro more some'
  obtain ⟨first, there, firsts, x⟩ := merges.x some'
  obtain ⟨top, there', tops, y⟩ := merges.y some'
  have wide := (each first there more firsts).1
  have tall := (each top there' more tops).2
  omega

/-- One more rectangle is merged. -/
theorem Merges.union (merges : Merges merged rects) (fields : rect.InI32) (reaches : merged.Reaches rect)
    (back : rect.Reaches merged) : Merges (merged.union rect) (rects ++ [rect]) := by
  have fits := unionFits_of_reaches merges.fields fields reaches back
  have covers : ∀ other ∈ rects ++ [rect], ∀ x y, other.Covers x y → (merged.union rect).Covers x y := by
    intro other member x y inside
    rcases List.mem_append.mp member with before | new
    · exact union_covers fits (.inl (merges.covers other before x y inside))
    · obtain rfl := List.mem_singleton.mp new
      exact union_covers fits (.inr inside)
  have old : ∀ {p : Rect → Prop}, (∃ other ∈ rects, p other) → ∃ other ∈ rects ++ [rect], p other := by
    rintro p ⟨other, member, holds⟩
    exact ⟨other, List.mem_append_left _ member, holds⟩
  have new : ∀ {p : Rect → Prop}, p rect → ∃ other ∈ rects ++ [rect], p other := fun holds =>
    ⟨rect, List.mem_append_right _ (List.mem_singleton_self _), holds⟩
  by_cases empty : merged.isEmpty = true
  · have same : merged.union rect = rect := if_pos empty
    rw [same] at covers ⊢
    exact ⟨fields, fun some' => new ⟨some', rfl⟩, fun some' => new ⟨some', rfl⟩, fun some' => new ⟨some', rfl⟩,
      fun some' => new ⟨some', rfl⟩, covers⟩
  by_cases void : rect.isEmpty = true
  · have same : merged.union rect = merged := (if_neg empty).trans (if_pos void)
    rw [same] at covers ⊢
    exact ⟨merges.fields, fun some' => old (merges.x some'), fun some' => old (merges.y some'),
      fun some' => old (merges.right some'), fun some' => old (merges.bottom some'), covers⟩
  have some' : merged.isEmpty = false := by simpa using empty
  have more : rect.isEmpty = false := by simpa using void
  obtain ⟨x, y, right, bottom, sides⟩ := union_sides merges.fields fields some' more fits
  refine ⟨sides, fun _ => ?_, fun _ => ?_, fun _ => ?_, fun _ => ?_, covers⟩
  · rw [x]
    rcases min_choice merged.x rect.x with least | least
    · rw [least]
      exact old (merges.x some')
    · rw [least]
      exact new ⟨more, rfl⟩
  · rw [y]
    rcases min_choice merged.y rect.y with least | least
    · rw [least]
      exact old (merges.y some')
    · rw [least]
      exact new ⟨more, rfl⟩
  · rw [right]
    rcases max_choice merged.right rect.right with most | most
    · rw [most]
      exact old (merges.right some')
    · rw [most]
      exact new ⟨more, rfl⟩
  · rw [bottom]
    rcases max_choice merged.bottom rect.bottom with most | most
    · rw [most]
      exact old (merges.bottom some')
    · rw [most]
      exact new ⟨more, rfl⟩

/-- The rectangles are within reach of each other. -/
def Together (rects : List Rect) : Prop := ∀ first ∈ rects, ∀ second ∈ rects, first.Reaches second

instance (rects : List Rect) : Decidable (Together rects) := inferInstanceAs (Decidable (∀ _ ∈ _, _))

/-- Rectangles that are within reach of each other all unite. -/
theorem Merges.all (merges : Merges merged rects) (fields : ∀ other ∈ rest, other.InI32) (together : Together (rects ++ rest)) :
    AllUnite merged rest ∧ Merges (rest.foldl Rect.union merged) (rects ++ rest) := by
  induction rest generalizing merged rects with
  | nil =>
    rw [List.append_nil]
    exact ⟨trivial, merges⟩
  | cons rect rest ih =>
    have here : rect ∈ rects ++ rect :: rest := List.mem_append_right _ (List.mem_cons_self ..)
    have own := fields rect (List.mem_cons_self ..)
    have reaches := merges.reaches fun other member => together other (List.mem_append_left _ member) rect here
    have back := merges.reached fun other member => together rect here other (List.mem_append_left _ member)
    have whole : rects ++ rect :: rest = rects ++ [rect] ++ rest := by simp
    obtain ⟨later, all⟩ := ih (merges.union own reaches back) (fun other member => fields other (List.mem_cons_of_mem _ member))
      (whole ▸ together)
    exact ⟨⟨(unites_iff merges.fields own).mpr ⟨reaches, back⟩, later⟩, whole ▸ all⟩

end Rect

/-! ## Where damage is merged -/

/-- Damage of one lease that is deferred while the panel's queue is full. -/
def PanelTelemetry.deferAll (t : PanelTelemetry) (lease : PanelLease) (damage : List (Rect × RefreshIntent)) : PanelTelemetry :=
  damage.foldl (fun t damage => t.deferDamage lease damage.1 damage.2) t

/-- Damage of one lease that arrives at the panel during a stroke. -/
def PanelRuntime.handleAll (env : PanelEnv) (p : PanelRuntime) (lease : PanelLease) (damage : List (Rect × RefreshIntent)) :
    PanelRuntime :=
  damage.foldl (fun p damage => (p.handleDamage env lease damage.1 damage.2).2) p

/-- The damage of the lease that waits. -/
def PanelTelemetry.waiting (t : PanelTelemetry) (lease : PanelLease) : Rect :=
  ((t.deferredDamage lease).map DeferredDamage.rect).getD default

theorem PanelTelemetry.deferAll_waiting (lease : PanelLease) (damage : List (Rect × RefreshIntent)) (t : PanelTelemetry) :
    (t.deferAll lease damage).waiting lease = (damage.map Prod.fst).foldl Rect.union (t.waiting lease) := by
  induction damage generalizing t with
  | nil => rfl
  | cons first rest ih =>
    have after : (t.deferDamage lease first.1 first.2).waiting lease = (t.waiting lease).union first.1 := by
      unfold waiting deferDamage
      cases t.deferredDamage lease with
      | none => simp [Rect.union, Rect.isEmpty_default]
      | some waits => simp
    have later := ih (t.deferDamage lease first.1 first.2)
    rw [after] at later
    exact later

theorem PanelRuntime.handleAll_dirty (env : PanelEnv) (lease : PanelLease) (damage : List (Rect × RefreshIntent))
    {p : PanelRuntime} (shown : p.foreground = some lease) (stroke : p.diverts lease = true) :
    (p.handleAll env lease damage).canonicalDirty = (damage.map Prod.fst).foldl Rect.union p.canonicalDirty := by
  induction damage generalizing p with
  | nil => rfl
  | cons first rest ih =>
    have diverted : (p.handleDamage env lease first.1 first.2).2 =
        { p with canonicalDirty := p.canonicalDirty.union first.1 } := by
      have held : (p.activePen ∨ p.settleDeadline.isSome) ∧ p.ink.enabled ∧ p.ink.key = lease.key := by
        simpa [PanelRuntime.diverts, and_assoc] using stroke
      unfold handleDamage
      rw [if_neg (by simp [shown]), if_pos held]
    have goes : p.handleAll env lease (first :: rest) =
        ({ p with canonicalDirty := p.canonicalDirty.union first.1 } : PanelRuntime).handleAll env lease rest := by
      unfold handleAll
      rw [List.foldl_cons, diverted]
    rw [goes]
    exact ih shown stroke

/-- All of the damage is merged without overflow, and none of it is lost. -/
structure Rect.Gathers (first : Rect) (damage : List (Rect × RefreshIntent)) (merged : Rect) : Prop where
  unite : Rect.AllUnite first (damage.map Prod.fst)
  contains : ∀ rect ∈ first :: damage.map Prod.fst, merged.Contains rect

theorem Rect.gathers {first : Rect} {damage : List (Rect × RefreshIntent)}
    (fields : ∀ rect ∈ first :: damage.map Prod.fst, rect.InI32) (together : Rect.Together (first :: damage.map Prod.fst)) :
    first.Gathers damage ((damage.map Prod.fst).foldl Rect.union first) := by
  have own := fields first (List.mem_cons_self ..)
  obtain ⟨unite, merges⟩ := (merges_single own).all (fun rect member => fields rect (List.mem_cons_of_mem _ member)) together
  exact ⟨unite, fun rect member => contains_of_covers (fields rect member) (merges.covers rect member)⟩

/-- Two rectangles of a client unite exactly where each is within reach of the other; and
    where all of the damage that waits is, it is merged without overflow and none is lost,
    both while the panel's queue is full and during a stroke. -/
theorem damage_unites (r other : Rect) (lease : PanelLease) (damage : List (Rect × RefreshIntent)) :
    (r.InI32 → other.InI32 → (r.Unites other ↔ r.Reaches other ∧ other.Reaches r)) ∧
    (∀ t : PanelTelemetry, (∀ rect ∈ t.waiting lease :: damage.map Prod.fst, rect.InI32) →
      Rect.Together (t.waiting lease :: damage.map Prod.fst) →
      (t.waiting lease).Gathers damage ((t.deferAll lease damage).waiting lease)) ∧
    ∀ env (p : PanelRuntime), p.foreground = some lease → p.diverts lease = true →
      (∀ rect ∈ p.canonicalDirty :: damage.map Prod.fst, rect.InI32) →
      Rect.Together (p.canonicalDirty :: damage.map Prod.fst) →
      p.canonicalDirty.Gathers damage (p.handleAll env lease damage).canonicalDirty := by
  refine ⟨fun fields others => Rect.unites_iff fields others, ?_, ?_⟩
  · intro t fields together
    rw [t.deferAll_waiting lease damage]
    exact Rect.gathers fields together
  · intro env p shown stroke fields together
    rw [PanelRuntime.handleAll_dirty env lease damage shown stroke]
    exact Rect.gathers fields together

namespace Sample

def corner : Rect := ⟨5, 5, 10, 10⟩

def beside : Rect := ⟨20, 5, 10, 10⟩

/-- Far to the left of the panel. -/
def outside : Rect := ⟨-2147483648, 5, 10, 10⟩

/-- A stroke is drawn under the lease. -/
def drawing : PanelRuntime :=
  { PanelRuntime.new glass with foreground := some lease, activePen := true, ink := ⟨1, 1, 1, true, none⟩ }

theorem damage_unites_corner :
    corner.Unites beside ∧ corner.InI32 ∧ beside.InI32 ∧
      (default : Rect).Gathers [(corner, .ui), (beside, .ink)]
        (((default : PanelTelemetry).deferAll lease [(corner, .ui), (beside, .ink)]).waiting lease) ∧
      (default : Rect).Gathers [(corner, .ui), (beside, .ink)]
        (drawing.handleAll ⟨fun _ => tile, 0, none⟩ lease [(corner, .ui), (beside, .ink)]).canonicalDirty := by
  have first : corner.InI32 := by constructor <;> decide
  have second : beside.InI32 := by constructor <;> decide
  have fields : ∀ rect ∈ [default, corner, beside], rect.InI32 := by
    have none : (default : Rect).InI32 := by constructor <;> decide
    intro rect member
    simp only [List.mem_cons, List.not_mem_nil, or_false] at member
    rcases member with rfl | rfl | rfl
    · exact none
    · exact first
    · exact second
  obtain ⟨unites, deferred, diverted⟩ := damage_unites corner beside lease [(corner, .ui), (beside, .ink)]
  exact ⟨(unites first second).mpr (by decide), first, second, deferred default fields (by decide),
    diverted ⟨fun _ => tile, 0, none⟩ drawing rfl (by decide) fields (by decide)⟩

/-- Damage on the panel is lost to damage outside of it: their union has a negative width. -/
theorem outside_loses_corner : corner.InI32 ∧ outside.InI32 ∧ (outside.union corner).isEmpty = true ∧ ¬outside.Unites corner := by
  refine ⟨by constructor <;> decide, by constructor <;> decide, by decide, fun unites => ?_⟩
  have inside := unites.second 960 1696 (by decide) (by decide) 5 5 (by decide)
  revert inside
  decide

end Sample

end Remagic.Display
