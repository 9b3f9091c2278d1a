import Mathlib.Logic.Function.Basic
import Mathlib.Tactic.Common

/-!
# Copies of what changes

Something changes from one edition to the next. Readers take copies of it, and later put
them up for everyone. A copy that is put up never goes behind the one it replaces, unless
it is the latest again; then what is put up only becomes newer, and is the latest edition
when no one has anything left to do.
-/

namespace Snapshots
variable {α : Type}

/-- How far a reader is. -/
inductive Reader (α : Type) where
  | idle
  /-- It has yet to take its copy. -/
  | owed
  | read (edition : Nat) (copy : α)
  | published (edition : Nat)
  deriving DecidableEq

/-- Nothing is left to do. -/
def Reader.settled : Reader α → Prop
  | .idle | .published _ => True
  | .owed | .read .. => False

def Reader.reading : Reader α → Bool
  | .read .. => true
  | .idle | .owed | .published _ => false

structure Shelf (α : Type) where
  editions : Nat → α
  /-- The latest edition. -/
  edition : Nat := 0
  /-- The edition that is put up. -/
  shown : Nat := 0
  readers : Nat → Reader α := fun _ => .idle

namespace Shelf
variable {shelf : Shelf α} {shownCopy copy : α} {left : Nat → Nat} {acknowledged i edition : Nat} {reader : Reader α}

def latest (shelf : Shelf α) : α := shelf.editions shelf.edition

def put (i : Nat) (reader : Reader α) (shelf : Shelf α) : Shelf α :=
  { shelf with readers := Function.update shelf.readers i reader }

@[simp] theorem put_self : (shelf.put i reader).readers i = reader := Function.update_self ..

theorem put_of_ne {j : Nat} (apart : j ≠ i) : (shelf.put i reader).readers j = shelf.readers j :=
  Function.update_of_ne apart ..

/-- The reader takes a copy. -/
def read (i : Nat) (shelf : Shelf α) : Shelf α := shelf.put i (.read shelf.edition shelf.latest)

variable [DecidableEq α]

/-- The reader puts its copy up. -/
def publish (i : Nat) (copy : α) (shelf : Shelf α) : Shelf α :=
  match shelf.readers i with
  | .read edition _ => { shelf.put i (.published edition) with shown := if copy = shelf.latest then shelf.edition else edition }
  | _ => shelf

/-- What is put up may happen to be the new edition. -/
def change (copy shownCopy : α) (shelf : Shelf α) : Shelf α :=
  { shelf with
    editions := Function.update shelf.editions (shelf.edition + 1) copy
    edition := shelf.edition + 1
    shown := if shownCopy = copy then shelf.edition + 1 else shelf.shown }

/-! ## What is put up -/

/-- What is put up is of the edition shown. A reader's copy is of an edition no earlier than
    the one that it has itself left, and so is what it has put up. -/
structure Holds (shelf : Shelf α) (shownCopy : α) (left : Nat → Nat) (acknowledged : Nat) : Prop where
  shown : shelf.shown ≤ shelf.edition
  copy : shownCopy = shelf.editions shelf.shown
  latest : shownCopy = shelf.latest → shelf.shown = shelf.edition
  read : ∀ i edition copy, shelf.readers i = .read edition copy →
    edition ≤ shelf.edition ∧ copy = shelf.editions edition ∧ left i ≤ edition
  published : ∀ i edition, shelf.readers i = .published edition → left i ≤ edition ∧ edition ≤ shelf.shown
  left : ∀ i, left i ≤ shelf.edition
  acknowledged : acknowledged ≤ shelf.shown

omit [DecidableEq α] in
/-- Where the edition shown is the latest, so is what is put up. -/
theorem Holds.latest_of (holds : shelf.Holds shownCopy left acknowledged) (current : shelf.shown = shelf.edition) :
    shownCopy = shelf.latest := by
  rw [holds.copy, current]
  rfl

omit [DecidableEq α] in
/-- The reader is at something that it has not read. -/
theorem Holds.put (holds : shelf.Holds shownCopy left acknowledged)
    (read : ∀ edition copy, reader = .read edition copy →
      edition ≤ shelf.edition ∧ copy = shelf.editions edition ∧ left i ≤ edition)
    (published : ∀ edition, reader = .published edition → left i ≤ edition ∧ edition ≤ shelf.shown) :
    (shelf.put i reader).Holds shownCopy left acknowledged := by
  refine ⟨holds.shown, holds.copy, holds.latest, ?_, ?_, holds.left, holds.acknowledged⟩
  · intro j edition copy there
    by_cases same : j = i
    · subst same
      exact read edition copy (put_self.symm.trans there)
    · exact holds.read j edition copy ((put_of_ne same).symm.trans there)
  · intro j edition there
    by_cases same : j = i
    · subst same
      exact published edition (put_self.symm.trans there)
    · exact holds.published j edition ((put_of_ne same).symm.trans there)

omit [DecidableEq α] in
theorem Holds.reads (holds : shelf.Holds shownCopy left acknowledged) (i : Nat) :
    (shelf.read i).Holds shownCopy left acknowledged := by
  refine holds.put ?_ fun edition published => by cases published
  intro edition copy same
  cases same
  exact ⟨Nat.le_refl _, rfl, holds.left i⟩

/-- A copy is put up that is the latest edition, or not behind what is there. -/
theorem Holds.publishes (holds : shelf.Holds shownCopy left acknowledged) (there : shelf.readers i = .read edition copy)
    (ahead : copy = shelf.latest ∨ shelf.shown ≤ edition) : (shelf.publish i copy).Holds copy left acknowledged := by
  obtain ⟨bounded, same, own⟩ := holds.read i edition copy there
  have rises : shelf.shown ≤ if copy = shelf.latest then shelf.edition else edition := by
    split
    · exact holds.shown
    next behind => exact ahead.resolve_left behind
  have reaches : edition ≤ if copy = shelf.latest then shelf.edition else edition := by
    split
    · exact bounded
    · exact Nat.le_refl _
  unfold publish
  rw [there]
  refine ⟨?_, ?_, ?_, ?_, ?_, holds.left, Nat.le_trans holds.acknowledged rises⟩
  · show (if copy = shelf.latest then shelf.edition else edition) ≤ shelf.edition
    split
    · exact Nat.le_refl _
    · exact bounded
  · show copy = shelf.editions (if copy = shelf.latest then shelf.edition else edition)
    split
    next latest => exact latest
    next => exact same
  · intro latest
    exact if_pos latest
  · intro j other copy' read
    by_cases same : j = i
    · subst same
      cases (put_self.symm.trans read : Reader.published edition = .read other copy')
    · exact holds.read j other copy' ((put_of_ne same).symm.trans read)
  · intro j other published
    show left j ≤ other ∧ other ≤ if copy = shelf.latest then shelf.edition else edition
    by_cases same : j = i
    · subst same
      cases (put_self.symm.trans published : Reader.published edition = .published other)
      exact ⟨own, reaches⟩
    · obtain ⟨before, shown⟩ := holds.published j other ((put_of_ne same).symm.trans published)
      exact ⟨before, Nat.le_trans shown rises⟩

theorem change_shown (shelf : Shelf α) (copy shownCopy : α) (shown : shelf.shown ≤ shelf.edition) :
    shelf.shown ≤ (shelf.change copy shownCopy).shown ∧ (shelf.change copy shownCopy).shown ≤ shelf.edition + 1 := by
  simp only [change]
  split <;> omega

theorem change_editions (shelf : Shelf α) (copy shownCopy : α) {edition : Nat} (before : edition ≤ shelf.edition) :
    (shelf.change copy shownCopy).editions edition = shelf.editions edition :=
  Function.update_of_ne (by omega) _ _

/-- A new edition comes out, which is left by no one, or by readers that have yet to read. -/
theorem Holds.changes (holds : shelf.Holds shownCopy left acknowledged) {left' : Nat → Nat} (copy : α)
    (leaves : ∀ i, left' i = left i ∨ left' i = shelf.edition + 1 ∧ (shelf.readers i = .idle ∨ shelf.readers i = .owed)) :
    (shelf.change copy shownCopy).Holds shownCopy left' acknowledged := by
  obtain ⟨rises, bounded⟩ := shelf.change_shown copy shownCopy holds.shown
  refine ⟨bounded, ?_, ?_, ?_, ?_, ?_, Nat.le_trans holds.acknowledged rises⟩
  · show shownCopy = Function.update shelf.editions (shelf.edition + 1) copy (if shownCopy = copy then shelf.edition + 1 else shelf.shown)
    have shown := holds.shown
    split
    next same => rw [Function.update_self, same]
    next => rw [Function.update_of_ne (by omega), ← holds.copy]
  · intro latest
    have same : shownCopy = copy := latest.trans (Function.update_self ..)
    exact if_pos same
  · intro i edition copy' there
    obtain ⟨before, same, own⟩ := holds.read i edition copy' there
    refine ⟨Nat.le_succ_of_le before, same.trans (shelf.change_editions copy shownCopy before).symm, ?_⟩
    rcases leaves i with kept | ⟨-, far⟩
    · rw [kept]
      exact own
    · have read : shelf.readers i = .read edition copy' := there
      simp [read] at far
  · intro i edition there
    obtain ⟨own, shown⟩ := holds.published i edition there
    refine ⟨?_, Nat.le_trans shown rises⟩
    rcases leaves i with kept | ⟨-, far⟩
    · rw [kept]
      exact own
    · have published : shelf.readers i = .published edition := there
      simp [published] at far
  · intro i
    show left' i ≤ shelf.edition + 1
    rcases leaves i with kept | ⟨new, -⟩
    · rw [kept]
      exact Nat.le_succ_of_le (holds.left i)
    · exact Nat.le_of_eq new

end Shelf

end Snapshots
