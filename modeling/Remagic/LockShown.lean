import Remagic.SleepTransaction

/-!
# What the phase Locked says

The phase is entered when the display has confirmed the frame of the lock, and again
when an unlock is given up. The second way takes no account of what the unlock left, so
the history of a transaction is kept beside it here: whether its lock was marked, and
the phase that its last unlock left.
-/

namespace Remagic.Daemon.SleepTransaction
open Runs

/-- The transaction beside its history. -/
structure Chronicle where
  current : SleepSnapshot := {}
  /-- The epoch that was marked as locked since the transaction began. -/
  marked : Option Nat := none
  /-- The phase that the last unlock left. -/
  left : SleepPhase := .idle
  deriving DecidableEq

/-- A refused operation leaves no trace. -/
def Chronicle.next (c : Chronicle) (operation : Operation) : Chronicle :=
  match operation.call c.current with
  | .error _ => c
  | .ok after =>
    { current := after
      marked :=
        match operation with
        | .start _ => none
        | .markLocked epoch => some epoch
        | _ => c.marked
      left :=
        match operation with
        | .beginUnlock _ => c.current.phase
        | _ => c.left }

/-- The transaction is locked only if it was marked so since it began. -/
def Chronicle.LockShown (c : Chronicle) : Prop := c.current.phase = .locked → c.marked = some c.current.epoch

/-- An unlock that is given up had left the phase Locked. -/
def Chronicle.ReturnsToLock (c : Chronicle) : Operation → Prop
  | .abortUnlock epoch => Transitions c.current (.abortUnlock epoch) → c.left = .locked
  | _ => True

/-- The history keeps the transaction as the operations alone do. -/
theorem chronicle_current (history : List Operation) (c : Chronicle) :
    (history.foldl Chronicle.next c).current = history.foldl next c.current := by
  induction history generalizing c with
  | nil => rfl
  | cons operation rest ih =>
    rw [List.foldl_cons, List.foldl_cons, ih]
    congr 1
    unfold Chronicle.next next
    cases operation.call c.current with
    | error refusal => rfl
    | ok after => rfl

/-! ## What an accepted operation does -/

variable {current after : SleepSnapshot} {c : Chronicle} {operation : Operation}

theorem update_ok {transition : SleepSnapshot → Except String (Nat × SleepPhase)}
    (updated : update transition current = .ok after) : transition current = .ok (after.epoch, after.phase) := by
  unfold update at updated
  cases moved : transition current with
  | error refusal =>
    rw [moved] at updated
    cases updated
  | ok target =>
    rw [moved] at updated
    by_cases room : current.revision < Supervisor.u64Max
    · simp only [bind, Except.bind, room, if_true] at updated
      cases updated
      rfl
    · simp only [bind, Except.bind, room, if_false] at updated
      cases updated

theorem advance_ok {epoch : Nat} {refusal : String} {sources : List SleepPhase} {target : Nat × SleepPhase}
    (updated : update (advance epoch refusal sources target) current = .ok after) :
    current.epoch = epoch ∧ current.phase ∈ sources ∧ after.epoch = target.1 ∧ after.phase = target.2 := by
  have advanced := update_ok updated
  unfold advance at advanced
  by_cases refused : current.epoch ≠ epoch ∨ current.phase ∉ sources
  · rw [if_pos refused] at advanced
    cases advanced
  · rw [if_neg refused] at advanced
    cases advanced
    simp only [not_or, not_not] at refused
    exact ⟨refused.1, refused.2, rfl, rfl⟩

theorem start_ok {epoch : Nat} (started : start epoch current = .ok after) : after.phase = .preparing := by
  unfold start at started
  by_cases zero : epoch = 0
  · simp [zero] at started
    cases started
  · simp only [zero, if_false] at started
    have began := update_ok started
    by_cases idle : current.phase = .idle
    · simp only [idle, ne_eq, not_true_eq_false, if_false] at began
      have target := Except.ok.inj began
      exact (Prod.mk.inj target).2.symm
    · simp only [idle, ne_eq, not_false_eq_true, if_true] at began
      cases began

/-! ## The invariant -/

/-- The history tells what each phase has behind it. -/
structure Chronicle.Faithful (c : Chronicle) : Prop where
  preparing : c.current.phase = .preparing → c.marked = none
  locked : c.LockShown
  unlocking : c.current.phase = .unlocking →
    c.left = .preparing ∧ c.marked = none ∨ c.left = .locked ∧ c.marked = some c.current.epoch

/-- Nothing is asked of a transaction that is over. -/
theorem idle_faithful (idle : c.current.phase = .idle) : c.Faithful := by
  constructor
  · intro preparing
    simp [idle] at preparing
  · intro locked
    simp [idle] at locked
  · intro unlocking
    simp [idle] at unlocking

theorem next_refused {refusal : String} (refused : operation.call c.current = .error refusal) : c.next operation = c := by
  simp only [Chronicle.next, refused]

/-- One operation keeps the invariant, unless it gives up an unlock that left no lock. -/
theorem next_faithful (faithful : c.Faithful) (returns : c.ReturnsToLock operation) : (c.next operation).Faithful := by
  cases called : operation.call c.current with
  | error refusal =>
    rw [next_refused called]
    exact faithful
  | ok after =>
    unfold Chronicle.next
    rw [called]
    cases operation with
    | snapshot =>
      cases called
      exact ⟨faithful.preparing, faithful.locked, faithful.unlocking⟩
    | start epoch =>
      have began := start_ok called
      constructor
      · exact fun _ => rfl
      · intro locked
        simp [began] at locked
      · intro unlocking
        simp [began] at unlocking
    | markLocked epoch =>
      obtain ⟨-, -, kept, locks⟩ := advance_ok called
      constructor
      · intro preparing
        simp [locks] at preparing
      · intro _
        exact congrArg some kept.symm
      · intro unlocking
        simp [locks] at unlocking
    | beginUnlock epoch =>
      obtain ⟨same, source, kept, unlocks⟩ := advance_ok called
      constructor
      · intro preparing
        simp [unlocks] at preparing
      · intro locked
        simp [unlocks] at locked
      · intro _
        simp only [List.mem_cons, List.not_mem_nil, or_false] at source
        rcases source with preparing | locked
        · exact .inl ⟨preparing, faithful.preparing preparing⟩
        · refine .inr ⟨locked, ?_⟩
          rw [kept, ← same]
          exact faithful.locked locked
    | markAwake epoch =>
      obtain ⟨same, source, kept, stays⟩ := advance_ok called
      constructor
      · intro preparing
        simp [stays] at preparing
      · intro _
        rw [kept, ← same]
        exact faithful.locked (List.mem_singleton.mp source)
      · intro unlocking
        simp [stays] at unlocking
    | finishUnlock epoch =>
      obtain ⟨-, -, -, idle⟩ := advance_ok called
      exact idle_faithful idle
    | abortUnlock epoch =>
      obtain ⟨same, source, kept, locks⟩ := advance_ok called
      have left := returns ⟨by simp, after, called⟩
      constructor
      · intro preparing
        simp [locks] at preparing
      · intro _
        rcases faithful.unlocking (List.mem_singleton.mp source) with ⟨other, -⟩ | ⟨-, marked⟩
        · rw [left] at other
          cases other
        · rw [kept, ← same]
          exact marked
      · intro unlocking
        simp [locks] at unlocking
    | reset =>
      have moved : update (fun _ => return (0, .idle)) c.current = .ok after := called
      exact idle_faithful (Prod.mk.inj (Except.ok.inj (update_ok moved))).2.symm

/-- Giving up an unlock that left no lock breaks it at once. -/
theorem next_unshown (faithful : c.Faithful) (strays : ¬ c.ReturnsToLock operation) : ¬ (c.next operation).LockShown := by
  cases operation with
  | abortUnlock epoch =>
    simp only [Chronicle.ReturnsToLock, Classical.not_imp] at strays
    obtain ⟨⟨-, after, called⟩, left⟩ := strays
    obtain ⟨-, source, -, locks⟩ := advance_ok called
    have unmarked : c.marked = none := by
      rcases faithful.unlocking (List.mem_singleton.mp source) with ⟨-, unmarked⟩ | ⟨locked, -⟩
      · exact unmarked
      · exact absurd locked left
    intro shown
    unfold Chronicle.LockShown Chronicle.next at shown
    rw [called] at shown
    have marked := shown locks
    simp only [unmarked] at marked
    cases marked
  | snapshot | start | markLocked | beginUnlock | markAwake | finishUnlock | reset => exact absurd trivial strays

/-- Over a run from a faithful history, both fail at the same step if they fail. -/
theorem shown_along (history : List Operation) (faithful : c.Faithful) :
    (∀ before, before <+: history → (before.foldl Chronicle.next c).LockShown) ↔
      Along Chronicle.next Chronicle.ReturnsToLock c history := by
  induction history generalizing c with
  | nil =>
    constructor
    · intro _
      exact trivial
    · intro _ before reached
      rw [List.prefix_nil.mp reached]
      exact faithful.locked
  | cons operation rest ih =>
    constructor
    · intro shown
      have first : (c.next operation).LockShown := shown [operation] (by simp)
      have returns : c.ReturnsToLock operation := by
        by_contra strays
        exact next_unshown faithful strays first
      refine ⟨returns, (ih (next_faithful faithful returns)).mp ?_⟩
      intro before reached
      exact shown (operation :: before) (List.cons_prefix_cons.mpr ⟨rfl, reached⟩)
    · rintro ⟨returns, along⟩ before reached
      cases before with
      | nil => exact faithful.locked
      | cons first before =>
        obtain ⟨rfl, shorter⟩ := List.cons_prefix_cons.mp reached
        exact (ih (next_faithful faithful returns)).mpr along before shorter

/-- A transaction is locked only after its lock was marked, in every state that a history
    reaches, exactly if no unlock is given up in it that had left the phase Preparing. -/
theorem lock_shown_iff (history : List Operation) :
    (∀ before, before <+: history →
      (before.foldl next {}).phase = .locked →
        (before.foldl Chronicle.next {}).marked = some (before.foldl next {}).epoch) ↔
      Along Chronicle.next Chronicle.ReturnsToLock {} history := by
  rw [← shown_along history (idle_faithful rfl)]
  simp only [Chronicle.LockShown, chronicle_current]

/-- A sleep whose lock frame failed, and whose rollback could not cancel the fence of the power key. -/
theorem lock_unshown :
    let history : List Operation := [.start 7, .beginUnlock 7, .abortUnlock 7]
    (history.foldl next {}).phase = .locked ∧ (history.foldl next {}).epoch = 7 ∧
      (∀ epoch, .markLocked epoch ∉ history) ∧ ¬ (history.foldl Chronicle.next {}).LockShown := by
  refine ⟨by decide, by decide, by simp, ?_⟩
  intro shown
  exact absurd (shown (by decide)) (by decide)

end Remagic.Daemon.SleepTransaction
