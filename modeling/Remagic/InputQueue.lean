import Remagic.Brackets

/-!
# The queue of one client

Input packets on their way to an application. The dispatcher pushes and the
connection's writer pops; when the queue is full an old move makes room for
the new packet, and a queue of boundaries alone closes.
-/

namespace Remagic.Display
open Brackets

inductive InputType where
  | touchPress | touchRelease | touchUpdate | penPress | penRelease | penUpdate
deriving DecidableEq, Repr

/-- `input_packet`, before it is written as bytes. -/
structure InputPacket where
  inputType : InputType
  deviceId : Int
  x : Int
  y : Int
  detail : Int
deriving DecidableEq, Repr

def isInputBoundary (packet : InputPacket) : Bool :=
  match packet.inputType with
  | .touchPress | .touchRelease | .penPress | .penRelease => true
  | .touchUpdate | .penUpdate => false

/-- A packet with the number of the contact that it is about. No function of the
    source has the number. -/
structure Delivery where
  packet : InputPacket
  contact : Nat
deriving DecidableEq, Repr

def Delivery.part (delivery : Delivery) : Part :=
  match delivery.packet.inputType with
  | .touchPress | .penPress => .opening
  | .touchUpdate | .penUpdate => .inside
  | .touchRelease | .penRelease => .closing

inductive InputPush where
  | queued | coalesced | closed | boundaryOverflow
deriving DecidableEq, Repr

def InputPush.delivered : InputPush → Bool
  | .queued | .coalesced => true
  | .closed | .boundaryOverflow => false

/-- `received` records what the writer has taken, oldest first; no function of the
    source has it. -/
structure InputQueue where
  capacity : Nat
  packets : List Delivery
  closed : Bool
  received : List Delivery
  positive : 0 < capacity
  bounded : packets.length ≤ capacity

def inputQueueCapacity : Nat := 512

namespace InputQueue

def new (capacity : Nat) : InputQueue :=
  ⟨max capacity 1, [], false, [], by omega, by simp⟩

variable (q : InputQueue)

def coalescible (delivery : Delivery) : Bool := !isInputBoundary delivery.packet

theorem room_of_not_full (full : ¬ q.packets.length ≥ q.capacity) (delivery : Delivery) :
    (q.packets ++ [delivery]).length ≤ q.capacity := by
  rw [List.length_append, List.length_singleton]
  omega

theorem room_of_coalescible (found : q.packets.any coalescible = true) (delivery : Delivery) :
    (q.packets.eraseP coalescible ++ [delivery]).length ≤ q.capacity := by
  obtain ⟨old, member, moves⟩ := List.any_eq_true.mp found
  have bounded := q.bounded
  have nonempty := List.length_pos_of_mem member
  rw [List.length_append, List.length_singleton, List.length_eraseP_of_mem member moves]
  omega

def push (delivery : Delivery) : InputPush × InputQueue :=
  if q.closed then (.closed, q)
  else if full : q.packets.length ≥ q.capacity then
    -- Only an old move may be evicted, and every boundary keeps its place.
    if found : q.packets.any coalescible = true then
      (.coalesced, { q with
        packets := q.packets.eraseP coalescible ++ [delivery]
        bounded := q.room_of_coalescible found delivery })
    else (.boundaryOverflow, { q with closed := true })
  else (.queued, { q with packets := q.packets ++ [delivery], bounded := q.room_of_not_full full delivery })

/-- What the writer takes next. The queue is left alone while it is empty. -/
def pop : Option Delivery × InputQueue :=
  match packets : q.packets with
  | [] => (none, q)
  | first :: rest =>
    (some first, { q with
      packets := rest
      received := q.received ++ [first]
      bounded := by
        have bounded := q.bounded
        rw [packets, List.length_cons] at bounded
        omega })

def close : InputQueue := { q with closed := true }

/-! ## What a client sees of one contact -/

/-- What the client has received and will receive about a contact, unless a move
    of it is evicted. -/
def log (contact : Nat) : List Part :=
  ((q.received ++ q.packets).filter fun delivery => delivery.contact = contact).map Delivery.part

theorem coalescible_part {delivery : Delivery} (moves : coalescible delivery = true) : delivery.part = .inside := by
  unfold coalescible isInputBoundary at moves
  unfold Delivery.part
  cases kind : delivery.packet.inputType <;> simp [kind] at moves <;> rfl

theorem log_append (received packets : List Delivery) (delivery : Delivery) (contact : Nat) :
    ((received ++ (packets ++ [delivery])).filter fun d => d.contact = contact).map Delivery.part =
      ((received ++ packets).filter fun d => d.contact = contact).map Delivery.part ++
        if delivery.contact = contact then [delivery.part] else [] := by
  rw [← List.append_assoc, List.filter_append, List.map_append]
  congr 1
  by_cases same : delivery.contact = contact <;> simp [same]

/-- A packet that was queued stands at the end of its contact's log, and at most
    one move is gone from any log. -/
theorem push_delivered {delivery : Delivery} (delivered : InputPush.delivered (q.push delivery).1 = true) (contact : Nat) :
    ∃ kept, Thinned (q.log contact) kept ∧
      (q.push delivery).2.log contact = kept ++ if delivery.contact = contact then [delivery.part] else [] := by
  unfold push at delivered ⊢
  by_cases closed : q.closed = true
  · simp [closed, InputPush.delivered] at delivered
  simp only [closed, Bool.false_eq_true, if_false] at delivered ⊢
  by_cases full : q.packets.length ≥ q.capacity
  · simp only [full, dite_true] at delivered ⊢
    by_cases found : q.packets.any coalescible = true
    · simp only [found, dite_true] at delivered ⊢
      obtain ⟨old, member, moves⟩ := List.any_eq_true.mp found
      obtain ⟨evicted, before, after, _, evictable, whole, erased⟩ := List.exists_of_eraseP member moves
      refine ⟨_, ?_, log_append q.received (q.packets.eraseP coalescible) delivery contact⟩
      unfold log Thinned
      rw [erased, whole]
      by_cases same : evicted.contact = contact
      · right
        refine ⟨((q.received ++ before).filter fun d => d.contact = contact).map Delivery.part,
          (after.filter fun d => d.contact = contact).map Delivery.part, ?_, ?_⟩
        · rw [← coalescible_part evictable]
          simp [List.filter_append, same]
        · simp [List.filter_append]
      · left
        simp [List.filter_append, same]
    · simp [found, InputPush.delivered] at delivered
  · simp only [full, dite_false]
    exact ⟨_, .inl rfl, log_append q.received q.packets delivery contact⟩

theorem push_refused {delivery : Delivery} (refused : InputPush.delivered (q.push delivery).1 = false) (contact : Nat) :
    (q.push delivery).2.log contact = q.log contact := by
  unfold push at refused ⊢
  by_cases closed : q.closed = true
  · simp [closed]
  simp only [closed, Bool.false_eq_true, if_false] at refused ⊢
  by_cases full : q.packets.length ≥ q.capacity
  · simp only [full, dite_true] at refused ⊢
    by_cases found : q.packets.any coalescible = true
    · simp [found, InputPush.delivered] at refused
    · simp only [found, Bool.false_eq_true, dite_false]
      rfl
  · simp [full, InputPush.delivered] at refused

theorem pop_log (contact : Nat) : q.pop.2.log contact = q.log contact := by
  unfold pop
  split
  · rfl
  · rename_i first rest packets
    simp [log, packets]

theorem close_log (contact : Nat) : q.close.log contact = q.log contact := rfl

end InputQueue
end Remagic.Display
