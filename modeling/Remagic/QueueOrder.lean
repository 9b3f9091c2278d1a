import Remagic.InputQueue
import Remagic.Runs

/-!
# The order of a client's input

The dispatcher pushes and the writer pops, in any order. What the writer takes is what
was pushed, less some moves.
-/

namespace Remagic.Display

/-- The second list is the first without some of the items that may be dropped. -/
inductive Dropping {α : Type} (droppable : α → Bool) : List α → List α → Prop where
  | nil : Dropping droppable [] []
  | keep (item : α) {items kept : List α} (rest : Dropping droppable items kept) :
      Dropping droppable (item :: items) (item :: kept)
  | drop {item : α} {items kept : List α} (may : droppable item = true) (rest : Dropping droppable items kept) :
      Dropping droppable (item :: items) kept

namespace Dropping
variable {α : Type} {droppable : α → Bool} {items kept fewer : List α}

theorem refl (items : List α) : Dropping droppable items items := by
  induction items with
  | nil => exact .nil
  | cons item rest ih => exact .keep item ih

theorem trans (first : Dropping droppable items kept) (second : Dropping droppable kept fewer) :
    Dropping droppable items fewer := by
  induction first generalizing fewer with
  | nil => exact second
  | keep item rest ih =>
    cases second with
    | keep _ later => exact .keep item (ih later)
    | drop may later => exact .drop may (ih later)
  | drop may rest ih => exact .drop may (ih second)

theorem append {more left : List α} (first : Dropping droppable items kept) (second : Dropping droppable more left) :
    Dropping droppable (items ++ more) (kept ++ left) := by
  induction first with
  | nil => exact second
  | keep item rest ih => exact .keep item ih
  | drop may rest ih => exact .drop may ih

theorem eraseP (items : List α) : Dropping droppable items (items.eraseP droppable) := by
  induction items with
  | nil => exact .nil
  | cons item rest ih =>
    by_cases may : droppable item = true
    · rw [List.eraseP_cons_of_pos may]
      exact .drop may (refl rest)
    · rw [List.eraseP_cons_of_neg may]
      exact .keep item ih

/-- What may not be dropped is all there, in its order. -/
theorem filter (dropping : Dropping droppable items kept) :
    kept.filter (fun item => !droppable item) = items.filter fun item => !droppable item := by
  induction dropping with
  | nil => rfl
  | keep item rest ih =>
    rw [List.filter_cons, List.filter_cons, ih]
  | drop may rest ih => simp [may, ih]

end Dropping

/-! ## Runs -/

inductive QueueMove where
  | push (delivery : Delivery)
  | pop
  deriving DecidableEq

/-- The queue, with the deliveries that it has taken up. -/
structure QueueRun where
  queue : InputQueue
  pushed : List Delivery := []

namespace QueueRun

def start (capacity : Nat) : QueueRun := { queue := .new capacity }

def next (r : QueueRun) : QueueMove → QueueRun
  | .push delivery =>
    { queue := (r.queue.push delivery).2
      pushed := if (r.queue.push delivery).1.delivered then r.pushed ++ [delivery] else r.pushed }
  | .pop => { r with queue := r.queue.pop.2 }

/-- What the writer has taken and what still waits for it is what was pushed, less some moves. -/
structure Delivers (r : QueueRun) : Prop where
  order : Dropping InputQueue.coalescible r.pushed (r.queue.received ++ r.queue.packets)
  boundaries : (r.queue.received ++ r.queue.packets).filter (fun delivery => isInputBoundary delivery.packet) =
    r.pushed.filter fun delivery => isInputBoundary delivery.packet
  bounded : r.queue.packets.length ≤ r.queue.capacity

/-- A push overflows only where one more boundary meets a queue of boundaries alone. -/
def OverflowsByBoundary (r : QueueRun) (move : QueueMove) : Prop :=
  ∀ delivery, move = .push delivery → (r.queue.push delivery).1 = .boundaryOverflow →
    isInputBoundary delivery.packet = true ∧ ∀ waiting ∈ r.queue.packets, isInputBoundary waiting.packet = true

/-- A move that is pushed on an open queue finds room, or another move to make it. -/
def RoomForMove (r : QueueRun) : QueueMove → Prop
  | .push delivery => isInputBoundary delivery.packet = false → r.queue.closed = false →
      r.queue.packets.length < r.queue.capacity ∨ ∃ waiting ∈ r.queue.packets, isInputBoundary waiting.packet = false
  | .pop => True

variable {r : QueueRun}

theorem delivers_of_order (order : Dropping InputQueue.coalescible r.pushed (r.queue.received ++ r.queue.packets)) :
    r.Delivers where
  order := order
  boundaries := by
    have kept := order.filter
    simpa [InputQueue.coalescible] using kept
  bounded := r.queue.bounded

/-- A push that is not refused puts the delivery behind the others, one of which may give way. -/
theorem push_packets {q : InputQueue} {delivery : Delivery} (delivered : (q.push delivery).1.delivered = true) :
    (q.push delivery).2.received = q.received ∧
      ∃ kept, Dropping InputQueue.coalescible q.packets kept ∧ (q.push delivery).2.packets = kept ++ [delivery] := by
  unfold InputQueue.push at delivered ⊢
  by_cases closed : q.closed = true
  · simp [closed, InputPush.delivered] at delivered
  simp only [closed, Bool.false_eq_true, if_false] at delivered ⊢
  by_cases full : q.packets.length ≥ q.capacity
  · simp only [full, dite_true] at delivered ⊢
    by_cases found : q.packets.any InputQueue.coalescible = true
    · simp only [found, dite_true]
      exact ⟨trivial, _, Dropping.eraseP q.packets, rfl⟩
    · simp [found, InputPush.delivered] at delivered
  · simp only [full, dite_false]
    exact ⟨trivial, _, Dropping.refl q.packets, rfl⟩

theorem push_refused {q : InputQueue} {delivery : Delivery} (refused : (q.push delivery).1.delivered = false) :
    (q.push delivery).2.received = q.received ∧ (q.push delivery).2.packets = q.packets := by
  unfold InputQueue.push at refused ⊢
  by_cases closed : q.closed = true
  · simp [closed]
  simp only [closed, Bool.false_eq_true, if_false] at refused ⊢
  by_cases full : q.packets.length ≥ q.capacity
  · simp only [full, dite_true] at refused ⊢
    by_cases found : q.packets.any InputQueue.coalescible = true
    · simp [found, InputPush.delivered] at refused
    · simp only [found, Bool.false_eq_true, dite_false]
      trivial
  · simp [full, InputPush.delivered] at refused

theorem Delivers.push (delivers : r.Delivers) (delivery : Delivery) : (r.next (.push delivery)).Delivers := by
  refine delivers_of_order ?_
  by_cases delivered : (r.queue.push delivery).1.delivered = true
  · obtain ⟨received, kept, dropping, packets⟩ := push_packets delivered
    simp only [next, delivered, if_true, received, packets]
    rw [← List.append_assoc]
    refine Dropping.append ?_ (.refl [delivery])
    exact delivers.order.trans (.append (.refl _) dropping)
  · have refused : (r.queue.push delivery).1.delivered = false := by simpa using delivered
    obtain ⟨received, packets⟩ := push_refused refused
    simp only [next, refused, Bool.false_eq_true, if_false, received, packets]
    exact delivers.order

theorem Delivers.pop (delivers : r.Delivers) : (r.next .pop).Delivers := by
  refine delivers_of_order ?_
  have order := delivers.order
  simp only [next, InputQueue.pop]
  split
  · exact order
  · rename_i first rest packets
    rw [packets] at order
    simpa using order

theorem Delivers.next (delivers : r.Delivers) : ∀ move, (r.next move).Delivers
  | .push delivery => delivers.push delivery
  | .pop => delivers.pop

theorem start_delivers (capacity : Nat) : (start capacity).Delivers := delivers_of_order .nil

/-- When a push overflows. -/
theorem push_overflows {q : InputQueue} {delivery : Delivery} : (q.push delivery).1 = .boundaryOverflow ↔
    q.closed = false ∧ q.capacity ≤ q.packets.length ∧ ∀ waiting ∈ q.packets, isInputBoundary waiting.packet = true := by
  unfold InputQueue.push
  by_cases closed : q.closed = true
  · simp [closed]
  simp only [closed, Bool.false_eq_true, if_false]
  by_cases full : q.packets.length ≥ q.capacity
  · simp only [full, dite_true]
    by_cases found : q.packets.any InputQueue.coalescible = true
    · simp only [found, dite_true]
      obtain ⟨old, member, moves⟩ := List.any_eq_true.mp found
      constructor
      · intro absurd'
        cases absurd'
      · rintro ⟨-, -, boundaries⟩
        simp [InputQueue.coalescible, boundaries old member] at moves
    · simp only [found, Bool.false_eq_true, dite_false, true_iff]
      refine ⟨trivial, trivial, fun waiting member => ?_⟩
      by_contra moves
      exact found (List.any_eq_true.mpr ⟨waiting, member, by simpa [InputQueue.coalescible] using moves⟩)
  · simp only [full, dite_false]
    constructor
    · intro absurd'
      cases absurd'
    · rintro ⟨-, stuffed, -⟩
      exact stuffed.elim

theorem overflowsByBoundary_iff (move : QueueMove) : r.OverflowsByBoundary move ↔ r.RoomForMove move := by
  cases move with
  | pop =>
    constructor
    · intro _
      trivial
    · rintro _ delivery same
      cases same
  | push delivery =>
    constructor
    · intro overflows moves opened
      by_contra stuck
      obtain ⟨full, boundaries⟩ : r.queue.capacity ≤ r.queue.packets.length ∧
          ∀ waiting ∈ r.queue.packets, isInputBoundary waiting.packet = true := by
        simpa using stuck
      obtain ⟨boundary, -⟩ := overflows delivery rfl (push_overflows.mpr ⟨opened, full, boundaries⟩)
      simp [moves] at boundary
    · rintro room other same overflow
      cases same
      obtain ⟨opened, full, boundaries⟩ := push_overflows.mp overflow
      refine ⟨?_, boundaries⟩
      by_contra moves
      rcases room (by simpa using moves) opened with space | ⟨waiting, member, droppable⟩
      · omega
      · simp [boundaries waiting member] at droppable

/-- Along every run of pushes and pops the writer takes what was pushed less some moves,
    from a queue within its capacity; and only boundaries overflow it exactly where every
    move that is pushed finds room. -/
theorem queue_delivers (capacity : Nat) (moves : List QueueMove) :
    Runs.Along next (fun r move => r.Delivers ∧ (r.next move).Delivers ∧ r.OverflowsByBoundary move) (start capacity) moves ↔
      Runs.Along next RoomForMove (start capacity) moves := by
  have delivers := start_delivers capacity
  generalize start capacity = r at delivers ⊢
  induction moves generalizing r with
  | nil => exact Iff.rfl
  | cons move rest ih =>
    have after := delivers.next move
    constructor
    · rintro ⟨⟨-, -, overflows⟩, later⟩
      exact ⟨(overflowsByBoundary_iff move).mp overflows, (ih _ after).mp later⟩
    · rintro ⟨room, later⟩
      exact ⟨⟨delivers, after, (overflowsByBoundary_iff move).mpr room⟩, (ih _ after).mpr later⟩

def pressed : Delivery := ⟨⟨.penPress, 1, 10, 10, 20⟩, 0⟩

def dragged : Delivery := ⟨⟨.penUpdate, 1, 20, 20, 20⟩, 0⟩

/-- A move closes a queue that holds one press and has room for no more. -/
theorem move_overflows : ¬Runs.Along next (fun r move => r.Delivers ∧ (r.next move).Delivers ∧ r.OverflowsByBoundary move)
    (start 1) [.push pressed, .push dragged] := by
  intro along
  obtain ⟨boundary, -⟩ := along.2.1.2.2 dragged rfl (by decide)
  cases boundary

end QueueRun
end Remagic.Display
