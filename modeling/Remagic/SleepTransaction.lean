import Remagic.ManagerState
import Remagic.Runs

/-!
# The sleep transaction

The phases that one sleep passes through, kept behind a lock together with the
epoch of the display lock and a revision. Whoever decided something about a sleep
that it saw keeps the epoch and the revision of what it saw, and asks again before
it acts.
-/

namespace Remagic.Daemon

inductive SleepPhase where
  | idle
  | preparing
  | locked
  | unlocking
  deriving DecidableEq

def SleepPhase.name : SleepPhase → String
  | .idle => "Idle"
  | .preparing => "Preparing"
  | .locked => "Locked"
  | .unlocking => "Unlocking"

structure SleepSnapshot where
  epoch : Nat := 0
  phase : SleepPhase := .idle
  /-- Changes on every phase transition. -/
  revision : Nat := 0
  deriving DecidableEq

namespace SleepTransaction

/-- One critical section: where the transition leads, under the next revision. -/
def update (transition : SleepSnapshot → Except String (Nat × SleepPhase)) (current : SleepSnapshot) :
    Except String SleepSnapshot := do
  let (epoch, phase) ← transition current
  if current.revision < Supervisor.u64Max then return { epoch, phase, revision := current.revision + 1 }
  else throw "sleep transaction revision overflow"

/-- The transition of the epoch from one of the phases, refused in the given words. -/
def advance (epoch : Nat) (refusal : String) (sources : List SleepPhase) (target : Nat × SleepPhase)
    (current : SleepSnapshot) : Except String (Nat × SleepPhase) :=
  if current.epoch ≠ epoch ∨ current.phase ∉ sources then
    throw (refusal ++ " from " ++ current.phase.name ++ " epoch " ++ toString current.epoch)
  else return target

def start (epoch : Nat) (current : SleepSnapshot) : Except String SleepSnapshot := do
  if epoch = 0 then throw "sleep transaction epoch must be nonzero"
  update (fun current =>
    if current.phase ≠ .idle then
      throw ("sleep transaction is already " ++ current.phase.name ++ " at epoch " ++ toString current.epoch)
    else return (epoch, .preparing)) current

def markLocked (epoch : Nat) : SleepSnapshot → Except String SleepSnapshot :=
  update (advance epoch ("cannot commit sleep epoch " ++ toString epoch) [.preparing] (epoch, .locked))

def beginUnlock (epoch : Nat) : SleepSnapshot → Except String SleepSnapshot :=
  update (advance epoch ("cannot unlock sleep epoch " ++ toString epoch) [.preparing, .locked] (epoch, .unlocking))

/-- A fresh interval of the lock after the device resumed: the same epoch and phase. -/
def markAwake (epoch : Nat) : SleepSnapshot → Except String SleepSnapshot :=
  update (advance epoch ("cannot mark sleep epoch " ++ toString epoch ++ " awake") [.locked] (epoch, .locked))

def finishUnlock (epoch : Nat) : SleepSnapshot → Except String SleepSnapshot :=
  update (advance epoch ("cannot finish sleep epoch " ++ toString epoch) [.unlocking] (0, .idle))

def abortUnlock (epoch : Nat) : SleepSnapshot → Except String SleepSnapshot :=
  update (advance epoch ("cannot abort unlock epoch " ++ toString epoch) [.unlocking] (epoch, .locked))

/-- System restoration owns the display, and retires even a transaction that failed half way. -/
def reset : SleepSnapshot → Except String SleepSnapshot := update fun _ => return (0, .idle)

inductive Operation where
  | snapshot
  | start (epoch : Nat)
  | markLocked (epoch : Nat)
  | beginUnlock (epoch : Nat)
  | markAwake (epoch : Nat)
  | finishUnlock (epoch : Nat)
  | abortUnlock (epoch : Nat)
  | reset
  deriving DecidableEq

/-- What the operation answers. -/
def Operation.call : Operation → SleepSnapshot → Except String SleepSnapshot
  | .snapshot => .ok
  | .start epoch => SleepTransaction.start epoch
  | .markLocked epoch => SleepTransaction.markLocked epoch
  | .beginUnlock epoch => SleepTransaction.beginUnlock epoch
  | .markAwake epoch => SleepTransaction.markAwake epoch
  | .finishUnlock epoch => SleepTransaction.finishUnlock epoch
  | .abortUnlock epoch => SleepTransaction.abortUnlock epoch
  | .reset => SleepTransaction.reset

/-- A refused operation changes nothing. -/
def next (current : SleepSnapshot) (operation : Operation) : SleepSnapshot :=
  (operation.call current).toOption.getD current

/-- The operation is a transition: it is not refused, and it is not a mere look. -/
def Transitions (current : SleepSnapshot) (operation : Operation) : Prop :=
  operation ≠ .snapshot ∧ ∃ after, operation.call current = .ok after

/-- The operation names a transaction that is not the one under way. A start names the
    transaction that it is to begin: it is out of date once one is under way. -/
def Stale (current : SleepSnapshot) : Operation → Prop
  | .snapshot | .reset => False
  | .start _ => current.phase ≠ .idle
  | .markLocked epoch | .beginUnlock epoch | .markAwake epoch | .finishUnlock epoch | .abortUnlock epoch =>
    current.epoch ≠ epoch

end SleepTransaction

def recoveryFenceMatches (stateSequence sleepRevision observedStateSequence observedSleepRevision : Nat) : Bool :=
  stateSequence == observedStateSequence && sleepRevision == observedSleepRevision

def resuspendFenceMatches (current : SleepSnapshot) (expectedEpoch expectedRevision : Nat)
    (interactionEpoch expectedInteractionEpoch : Nat) : Bool :=
  current.phase == .locked && current.epoch == expectedEpoch && current.revision == expectedRevision &&
    interactionEpoch == expectedInteractionEpoch

namespace SleepTransaction
open Runs

theorem update_revision {transition : SleepSnapshot → Except String (Nat × SleepPhase)} {current after : SleepSnapshot}
    (updated : update transition current = .ok after) : after.revision = current.revision + 1 := by
  unfold update at updated
  cases moved : transition current with
  | error refusal =>
    rw [moved] at updated
    cases updated
  | ok target =>
    rw [moved] at updated
    by_cases room : current.revision < Supervisor.u64Max
    · simp only [bind, Except.bind, room, if_true] at updated
      cases updated
      rfl
    · simp only [bind, Except.bind, room, if_false] at updated
      cases updated

variable {current : SleepSnapshot} {operation : Operation}

theorem update_refused {transition : SleepSnapshot → Except String (Nat × SleepPhase)} {refusal : String}
    (refused : transition current = .error refusal) : update transition current = .error refusal := by
  rw [update, refused]
  rfl

/-- Every transition takes the revision one up. -/
theorem call_revision {current after : SleepSnapshot} (looks : operation ≠ .snapshot)
    (called : operation.call current = .ok after) : after.revision = current.revision + 1 := by
  cases operation with
  | snapshot => exact absurd rfl looks
  | start epoch =>
    by_cases zero : epoch = 0
    · simp only [Operation.call, start, zero, if_true] at called
      cases called
    · simp only [Operation.call, start, zero, if_false] at called
      exact update_revision called
  | markLocked epoch => exact update_revision called
  | beginUnlock epoch => exact update_revision called
  | markAwake epoch => exact update_revision called
  | finishUnlock epoch => exact update_revision called
  | abortUnlock epoch => exact update_revision called
  | reset =>
    simp only [Operation.call, reset] at called
    exact update_revision called

theorem next_revision (moves : Transitions current operation) :
    (next current operation).revision = current.revision + 1 := by
  obtain ⟨looks, after, called⟩ := moves
  rw [next, called]
  exact call_revision looks called

theorem next_still (still : ¬ Transitions current operation) : next current operation = current := by
  cases called : operation.call current with
  | error refusal => simp [next, called, Except.toOption]
  | ok after =>
    by_cases looks : operation = .snapshot
    · subst looks
      rfl
    · exact absurd ⟨looks, after, called⟩ still

theorem advance_stale {epoch : Nat} {refusal : String} {sources : List SleepPhase} {target : Nat × SleepPhase}
    (stale : current.epoch ≠ epoch) : ∃ message, advance epoch refusal sources target current = .error message := by
  unfold advance
  rw [if_pos (.inl stale)]
  exact ⟨_, rfl⟩

theorem call_stale (stale : Stale current operation) : ∃ refusal, operation.call current = .error refusal := by
  cases operation with
  | snapshot => exact stale.elim
  | reset => exact stale.elim
  | start epoch =>
    by_cases zero : epoch = 0
    · simp only [Operation.call, start, zero, if_true]
      exact ⟨_, rfl⟩
    · simp only [Operation.call, start, zero, if_false]
      exact ⟨_, update_refused (if_pos stale)⟩
  | markLocked epoch =>
    obtain ⟨message, refused⟩ := advance_stale stale
    exact ⟨message, update_refused refused⟩
  | beginUnlock epoch =>
    obtain ⟨message, refused⟩ := advance_stale stale
    exact ⟨message, update_refused refused⟩
  | markAwake epoch =>
    obtain ⟨message, refused⟩ := advance_stale stale
    exact ⟨message, update_refused refused⟩
  | finishUnlock epoch =>
    obtain ⟨message, refused⟩ := advance_stale stale
    exact ⟨message, update_refused refused⟩
  | abortUnlock epoch =>
    obtain ⟨message, refused⟩ := advance_stale stale
    exact ⟨message, update_refused refused⟩

/-- The revision never falls along a run, and stays only where nothing happened. -/
theorem revision_run (operations : List Operation) (current : SleepSnapshot) :
    current.revision ≤ (operations.foldl next current).revision ∧
      ((operations.foldl next current).revision = current.revision →
        Along next (fun s operation => ¬ Transitions s operation) current operations) := by
  induction operations generalizing current with
  | nil => exact ⟨Nat.le_refl _, fun _ => trivial⟩
  | cons operation rest ih =>
    obtain ⟨above, along⟩ := ih (next current operation)
    by_cases moves : Transitions current operation
    · have higher := next_revision moves
      constructor
      · exact Nat.le_trans (by omega) above
      · intro same
        simp only [List.foldl_cons] at same
        omega
    · rw [next_still moves] at above along
      simp only [List.foldl_cons, Along, next_still moves]
      exact ⟨above, fun same => ⟨moves, along same⟩⟩

/-- The fence of every run: a transition takes the revision up, an operation that is out
    of date changes nothing, and a resuspend fence that still matches a snapshot was
    crossed by no transition since. -/
theorem transaction_fenced (before since : List Operation) (operation : Operation)
    (interactionEpoch expectedInteractionEpoch : Nat) :
    let captured := before.foldl next {}
    let current := since.foldl next captured
    (Transitions current operation → current.revision < (next current operation).revision) ∧
      (Stale current operation → next current operation = current) ∧
      (resuspendFenceMatches current captured.epoch captured.revision interactionEpoch expectedInteractionEpoch = true →
        Along next (fun s operation => ¬ Transitions s operation) captured since) := by
  intro captured current
  refine ⟨?_, ?_, ?_⟩
  · intro moves
    rw [next_revision moves]
    omega
  · intro stale
    obtain ⟨refusal, refused⟩ := call_stale stale
    simp [next, refused, Except.toOption]
  · intro matches'
    simp only [resuspendFenceMatches, Bool.and_eq_true, beq_iff_eq] at matches'
    exact (revision_run since captured).2 matches'.1.2

/-- An old decision to suspend again does not outlive a wake. -/
example : resuspendFenceMatches ([.beginUnlock 7, .abortUnlock 7].foldl next ⟨7, .locked, 2⟩) 7 2 0 0 = false := by decide

end SleepTransaction
end Remagic.Daemon
