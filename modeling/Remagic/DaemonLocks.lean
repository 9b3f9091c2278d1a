import Remagic.DaemonFrames

/-!
# The daemon's locks

Whoever holds the transition lock is alone in changing the domain, the processes of
applications and the sleep transaction, but for what the event loop does without it.
This is what each task promises, and what the others rely on.
-/

namespace Remagic.Daemon
open Supervisor
open Programs (Program Contract Assertion)
open Programs.Job (Keeps keeps_pure keeps_throw keeps_bind keeps_ite keeps_outcome keeps_ofResult keeps_require keeps_ofOption
  keeps_mapError keeps_doIf only_pure only_bind only_ite)

/-! ## What the others may do -/

/-- The domain may leave a passage without the lock. -/
inductive LoopMoves : DomainState → DomainState → Prop where
  | stay (domain : DomainState) : LoopMoves domain domain
  | ready (app : AppId) : LoopMoves (.launching app) (.foreground app)
  | parked (app : AppId) : LoopMoves (.parking app) .manager

theorem LoopMoves.trans {first second third : DomainState} (one : LoopMoves first second) (two : LoopMoves second third) :
    LoopMoves first third := by
  cases one with
  | stay => exact two
  | ready app =>
    cases two with
    | stay => exact .ready app
  | parked app =>
    cases two with
    | stay => exact .parked app

/-- The part of a mode's record that its lease fixes. -/
def RuntimeInputState.unmoded (input : RuntimeInputState) : RuntimeInputState := { input with mode := .modal }

/-- What the other tasks leave as it is, as far as `me` holds a lock on it. -/
structure Undisturbed (me : Nat) (s t : SharedDaemon) : Prop where
  mine : ∀ lock, t.locks lock = some me ↔ s.locks lock = some me
  moves : s.locks .transition = some me → LoopMoves s.domain t.domain
  state : me = loopTask → s.locks .transition = some me → t.state = s.state
  sleep : s.locks .transition = some me → t.sleep = s.sleep
  generations : s.locks .transition = some me → t.generations = s.generations
  backgroundExecution : s.locks .transition = some me → t.backgroundExecution = s.backgroundExecution
  foregroundFences : s.locks .transition = some me → t.foregroundFences = s.foregroundFences
  sessions : s.locks .transition = some me → ∀ id, t.sessions id = s.sessions id ∨
    me ≠ loopTask ∧ ∃ session, t.sessions id = some session ∧ session.status ≠ .background
  unmoded : s.locks .transition = some me → ∀ id,
    (t.inputModes id).map RuntimeInputState.unmoded = (s.inputModes id).map RuntimeInputState.unmoded
  settled : s.locks .transition = some me → ∀ id input, s.inputModes id = some input → input.pending = false →
    t.inputModes id = some input
  inputModes : s.locks .inputModes = some me → t.inputModes = s.inputModes
  units : s.locks .transition = some me → ∀ id, t.units id = true → s.units id = true
  owed : me = loopTask → t.owed = s.owed
  fences : ∀ request, s.fences request ≠ .pending → t.fences request = s.fences request
  committing : me = loopTask → ∀ request, t.fences request = .committing → s.fences request = .committing
  launchInterruptEpoch : s.launchInterruptEpoch ≤ t.launchInterruptEpoch

theorem Undisturbed.refl (me : Nat) (s : SharedDaemon) : Undisturbed me s s where
  mine _ := Iff.rfl
  moves _ := .stay _
  state _ _ := rfl
  sleep _ := rfl
  generations _ := rfl
  backgroundExecution _ := rfl
  foregroundFences _ := rfl
  sessions _ _ := .inl rfl
  unmoded _ _ := rfl
  settled _ _ _ there _ := there
  inputModes _ := rfl
  units _ _ active := active
  owed _ := rfl
  fences _ _ := rfl
  committing _ _ begun := begun
  launchInterruptEpoch := Nat.le_refl _

theorem Undisturbed.trans {me : Nat} {s t u : SharedDaemon} (first : Undisturbed me s t) (second : Undisturbed me t u) :
    Undisturbed me s u where
  mine lock := (second.mine lock).trans (first.mine lock)
  moves held := (first.moves held).trans (second.moves ((first.mine _).mpr held))
  state loop held := (second.state loop ((first.mine _).mpr held)).trans (first.state loop held)
  sleep held := (second.sleep ((first.mine _).mpr held)).trans (first.sleep held)
  generations held := (second.generations ((first.mine _).mpr held)).trans (first.generations held)
  backgroundExecution held := (second.backgroundExecution ((first.mine _).mpr held)).trans (first.backgroundExecution held)
  foregroundFences held := (second.foregroundFences ((first.mine _).mpr held)).trans (first.foregroundFences held)
  sessions held id := by
    rcases second.sessions ((first.mine _).mpr held) id with same | changed
    · rw [same]
      exact first.sessions held id
    · exact .inr changed
  unmoded held id := (second.unmoded ((first.mine _).mpr held) id).trans (first.unmoded held id)
  settled held id input there settled :=
    second.settled ((first.mine _).mpr held) id input (first.settled held id input there settled) settled
  inputModes held := (second.inputModes ((first.mine _).mpr held)).trans (first.inputModes held)
  units held id active := first.units held id (second.units ((first.mine _).mpr held) id active)
  owed loop := (second.owed loop).trans (first.owed loop)
  fences request fixed := by
    have same := first.fences request fixed
    exact (second.fences request (by rw [same]; exact fixed)).trans same
  committing loop request begun := first.committing loop request (second.committing loop request begun)
  launchInterruptEpoch := Nat.le_trans first.launchInterruptEpoch second.launchInterruptEpoch

/-! ## What each task promises -/

/-- What an operation needs: the transition lock for what the lock protects, and the
    event loop for what only the event loop does. -/
def Op.orderly (me : Nat) {β : Type} (op : Op β) (s : SharedDaemon) : Prop :=
  match op with
  | .acquire _ => True
  | .release lock _ => s.locks lock = some me
  | .commitReady _ => s.locks .transition = some me ∧ s.locks .inputModes = some me
  | .edit (.session _ session) => s.locks .transition = some me ∨
    me = loopTask ∧ ∃ saved, session = some saved ∧ saved.status ≠ .background
  | op => match op.kind with
    | .domain | .grant | .process | .mode | .unit | .sleep => s.locks .transition = some me
    | .ready | .assess | .commit => me = loopTask
    | _ => True

section
variable {me other : Nat} {β : Type} {op : Op β} {answer : Answer} {s : SharedDaemon}

/-- A kind of operation that needs the transition lock. -/
def Kind.protected' : Kind → Bool
  | .domain | .grant | .process | .mode | .unit | .sleep => true
  | _ => false

theorem Op.orderly.held (orderly : op.orderly me s) (needs : op.kind.protected' = true) : s.locks .transition = some me := by
  cases op with
  | acquire lock => cases lock <;> cases needs
  | release lock failed => cases lock <;> cases needs
  | commitReady id => exact orderly.1
  | edit change =>
    cases change <;> first
      | cases needs; done
      | exact orderly
  | call made =>
    have same : (Op.call made).kind = made.kind := rfl
    unfold Op.orderly at orderly
    simp only [same] at orderly
    rw [same] at needs
    revert orderly needs
    cases made.kind <;> simp [Kind.protected']
  | _ => first
    | exact orderly
    | cases needs

/-- What only the event loop does. -/
theorem Op.orderly.loop (orderly : op.orderly me s) (needs : op.kind = .ready ∨ op.kind = .assess ∨ op.kind = .commit) :
    me = loopTask := by
  cases op with
  | acquire lock => cases lock <;> simp [Op.kind, Lock.kind] at needs
  | release lock failed => cases lock <;> simp [Op.kind, Lock.kind] at needs
  | edit change => cases change <;> simp [Op.kind, Edit.kind] at needs
  | call made => rcases made.kind_cases with kind | kind | kind <;> simp [Op.kind, kind] at needs
  | _ => first
    | exact orderly
    | simp [Op.kind] at needs

theorem Op.exec_moves (op : Op β) (kind : op.kind = .ready) : LoopMoves s.domain (op.exec me answer s).2.domain := by
  cases op with
  | appReady id =>
    unfold Op.exec SharedDaemon.appReady
    simp only
    by_cases launching : s.domain = .launching id
    · rw [if_pos launching, SharedDaemon.marked_snd]
      unfold SharedDaemon.apply ManagerState.apply ManagerState.target
      have there : s.state.domain = .launching id := launching
      rw [launching]
      simp only [there, if_true, Option.map_some]
      exact .ready id
    · rw [if_neg launching]
      exact .stay _
  | appParked id =>
    unfold Op.exec SharedDaemon.appParked
    simp only
    by_cases parking : s.domain = .parking id
    · rw [if_pos parking]
      unfold SharedDaemon.apply ManagerState.apply ManagerState.target
      have there : s.state.domain = .parking id := parking
      rw [parking]
      simp only [there, if_true, Option.map_some]
      exact .parked id
    · rw [if_neg parking]
      exact .stay _
  | acquire lock => cases lock <;> cases kind
  | release lock failed => cases lock <;> cases kind
  | edit change => cases change <;> cases kind
  | call made => rcases made.kind_cases with same | same | same <;> simp [Op.kind, same] at kind
  | _ => cases kind

/-- The locks of another task are not touched. -/
theorem Op.exec_mine (op : Op β) (apart : me ≠ other) (able : op.ready me s = true) (orderly : op.orderly me s) (lock : Lock) :
    (op.exec me answer s).2.locks lock = some other ↔ s.locks lock = some other := by
  have frame := op.frame me answer s
  by_cases kind : op.kind = .lock ∨ op.kind = .hold
  · cases op with
    | acquire taken =>
      have free : s.locks taken = none := by simpa [Op.ready] using able
      by_cases same : lock = taken
      · subst same
        simp [Op.exec, free, apart]
      · simp [Op.exec, same]
    | release given failed =>
      have held : s.locks given = some me := orderly
      by_cases same : lock = given
      · subst same
        simp [Op.exec, held, apart]
      · simp [Op.exec, same]
    | edit change => cases change <;> simp [Op.kind, Edit.kind] at kind
    | call made => rcases made.kind_cases with same | same | same <;> simp [Op.kind, same] at kind
    | _ => simp [Op.kind] at kind
  · rw [frame.locks (fun h => kind (.inl h)) (fun h => kind (.inr h))]

/-- A pending mode may be set at any time. -/
theorem SharedDaemon.setPendingMode_modes (token : AppToken) (mode : InputMode) (id : AppId) :
    ((s.setPendingMode token mode).2.inputModes id).map RuntimeInputState.unmoded = (s.inputModes id).map RuntimeInputState.unmoded ∧
      ∀ input, s.inputModes id = some input → input.pending = false → (s.setPendingMode token mode).2.inputModes id = some input := by
  unfold SharedDaemon.setPendingMode
  split
  · cases there : s.inputModes token.appId with
    | none => exact ⟨rfl, fun input present _ => present⟩
    | some input =>
      simp only
      split
      · exact ⟨rfl, fun input present _ => present⟩
      · split
        · exact ⟨rfl, fun input present _ => present⟩
        next pending =>
          cases input.validateMode token.appId mode with
          | error error => exact ⟨rfl, fun input present _ => present⟩
          | ok inkEnabled =>
            by_cases same : id = token.appId
            · subst same
              refine ⟨?_, ?_⟩
              · simp [SharedDaemon.edit, there, RuntimeInputState.unmoded]
              · intro present there' settled
                rw [there] at there'
                cases there'
                simp [settled] at pending
            · refine ⟨?_, fun present there' _ => ?_⟩
              · simp [SharedDaemon.edit, same]
              · simpa [SharedDaemon.edit, same] using there'
  · exact ⟨rfl, fun input present _ => present⟩

theorem Op.exec_pendingMode (op : Op β) (kind : op.kind = .pendingMode) (id : AppId) :
    ((op.exec me answer s).2.inputModes id).map RuntimeInputState.unmoded = (s.inputModes id).map RuntimeInputState.unmoded ∧
      ∀ input, s.inputModes id = some input → input.pending = false → (op.exec me answer s).2.inputModes id = some input := by
  cases op with
  | setPendingMode token mode => exact s.setPendingMode_modes token mode id
  | edit change => cases change <;> cases kind
  | acquire lock => cases lock <;> cases kind
  | release lock failed => cases lock <;> cases kind
  | call made => rcases made.kind_cases with same | same | same <;> simp [Op.kind, same] at kind
  | _ => cases kind

theorem Op.exec_sessions (op : Op β) (apart : me ≠ other) (orderly : op.orderly me s)
    (held : s.locks .transition = some other) (id : AppId) :
    (op.exec me answer s).2.sessions id = s.sessions id ∨
      other ≠ loopTask ∧ ∃ session, (op.exec me answer s).2.sessions id = some session ∧ session.status ≠ .background := by
  by_cases kind : op.kind = .session
  · cases op with
    | edit change =>
      cases change with
      | session app saved =>
        rcases orderly with mine | ⟨loop, kept, there, status⟩
        · rw [held] at mine
          exact absurd (Option.some.inj mine).symm apart
        · by_cases same : id = app
          · subst same
            refine .inr ⟨fun loop' => apart (loop.trans loop'.symm), kept, ?_, status⟩
            simp [Op.exec, SharedDaemon.edit, there]
          · left
            simp [Op.exec, SharedDaemon.edit, same]
      | _ => cases kind
    | acquire lock => cases lock <;> cases kind
    | release lock failed => cases lock <;> cases kind
    | call made => rcases made.kind_cases with same | same | same <;> simp [Op.kind, same] at kind
    | _ => cases kind
  · left
    rw [(op.frame me answer s).sessions kind]

/-- Whoever holds the lock of the input modes is alone in changing them. -/
theorem Op.exec_inputModes (op : Op β) (apart : me ≠ other) (able : op.ready me s = true) (orderly : op.orderly me s)
    (held : s.locks .inputModes = some other) : (op.exec me answer s).2.inputModes = s.inputModes := by
  have taken : s.modesFree me = false := by simp [SharedDaemon.modesFree, held, apart.symm]
  by_cases kind : op.kind = .mode ∨ op.kind = .pendingMode ∨ op.kind = .grant
  · cases op with
    | commitReady id =>
      have mine := orderly.2
      rw [held] at mine
      exact absurd (Option.some.inj mine).symm apart
    | setPendingMode token mode => simp [Op.ready, taken] at able
    | edit change =>
      cases change <;> simp [Op.kind, Edit.kind] at kind <;> simp [Op.ready, taken] at able
    | acquire lock => cases lock <;> simp [Op.kind, Lock.kind] at kind
    | release lock failed => cases lock <;> simp [Op.kind, Lock.kind] at kind
    | call made => rcases made.kind_cases with same | same | same <;> simp [Op.kind, same] at kind
    | _ => simp [Op.kind] at kind
  · exact (op.frame me answer s).inputModes (fun h => kind (.inl h)) (fun h => kind (.inr (.inl h)))
      fun h => kind (.inr (.inr h))

/-- Only the event loop owes a recovery. -/
theorem Op.exec_owed (op : Op β) (task : me ≠ loopTask) (orderly : op.orderly me s) : (op.exec me answer s).2.owed = s.owed := by
  by_cases kind : op.kind = .lock ∨ op.kind = .hold ∨ op.kind = .assess
  · cases op with
    | acquire lock => rfl
    | release lock failed => simp [Op.exec, task]
    | assess => exact absurd (orderly.loop (.inr (.inl rfl))) task
    | edit change => cases change <;> simp [Op.kind, Edit.kind] at kind
    | call made => rcases made.kind_cases with same | same | same <;> simp [Op.kind, same] at kind
    | _ => simp [Op.kind] at kind
  · exact (op.frame me answer s).owed (fun h => kind (.inl h)) (fun h => kind (.inr (.inl h)))
      fun h => kind (.inr (.inr h))

/-- A fence that is decided stays as it is. -/
theorem Op.exec_fences (op : Op β) (request : Nat) (fixed : s.fences request ≠ .pending) :
    (op.exec me answer s).2.fences request = s.fences request := by
  by_cases kind : op.kind = .commit
  · cases op with
    | beginCommit asked =>
      unfold Op.exec
      simp only
      split
      next pending =>
        have other : request ≠ asked := by
          rintro rfl
          exact fixed pending
        simp [other]
      next => rfl
    | edit change => cases change <;> cases kind
    | acquire lock => cases lock <;> cases kind
    | release lock failed => cases lock <;> cases kind
    | call made => rcases made.kind_cases with same | same | same <;> simp [Op.kind, same] at kind
    | _ => cases kind
  · rw [(op.frame me answer s).fences kind]

theorem Op.exec_launchInterruptEpoch (op : Op β) :
    s.launchInterruptEpoch ≤ (op.exec me answer s).2.launchInterruptEpoch := by
  by_cases kind : op.kind = .event
  · cases op with
    | post event interactionEpoch => exact Nat.le_refl _
    | send event =>
      have grown : s.launchInterruptEpoch ≤ (s.newEvent event).2.launchInterruptEpoch := by
        unfold SharedDaemon.newEvent
        simp only
        split <;> omega
      unfold Op.exec
      simp only
      split <;> exact grown
    | edit change => cases change <;> cases kind
    | acquire lock => cases lock <;> cases kind
    | release lock failed => cases lock <;> cases kind
    | call made => rcases made.kind_cases with same | same | same <;> simp [Op.kind, same] at kind
    | _ => cases kind
  · exact Nat.le_of_eq ((op.frame me answer s).launchInterruptEpoch kind).symm

/-- What a task promises is what the others rely on. -/
theorem Op.undisturbed (op : Op β) (apart : me ≠ other) (able : op.ready me s = true) (orderly : op.orderly me s) :
    Undisturbed other s (op.exec me answer s).2 := by
  have frame := op.frame me answer s
  have free : s.locks .transition = some other → op.kind.protected' = false := by
    intro held
    by_contra needs
    have mine := orderly.held (by simpa using needs)
    rw [held] at mine
    exact apart (Option.some.inj mine).symm
  have unneeded : s.locks .transition = some other → ∀ kind : Kind, kind.protected' = true → op.kind ≠ kind := by
    intro held kind needs same
    rw [same] at free
    rw [free held] at needs
    cases needs
  refine
    { mine := op.exec_mine apart able orderly
      moves := ?_
      state := ?_
      sleep := fun held => frame.sleep (unneeded held .sleep rfl)
      generations := fun held => frame.generations (unneeded held .process rfl)
      backgroundExecution := fun held => frame.backgroundExecution (unneeded held .process rfl)
      foregroundFences := fun held => frame.foregroundFences (unneeded held .process rfl)
      sessions := ?_
      unmoded := ?_
      settled := ?_
      inputModes := ?_
      units := ?_
      owed := ?_
      fences := ?_
      committing := ?_
      launchInterruptEpoch := ?_ }
  · intro held
    by_cases ready : op.kind = .ready
    · exact op.exec_moves ready
    · have same := frame.state (unneeded held .domain rfl) (unneeded held .grant rfl) ready
      unfold SharedDaemon.domain
      rw [same]
      exact .stay _
  · intro loop held
    refine frame.state (unneeded held .domain rfl) (unneeded held .grant rfl) ?_
    intro ready
    exact apart ((orderly.loop (.inl ready)).trans loop.symm)
  · intro held id
    exact op.exec_sessions apart orderly held id
  · intro held id
    by_cases pending : op.kind = .pendingMode
    · exact (op.exec_pendingMode pending id).1
    · rw [frame.inputModes (unneeded held .mode rfl) pending (unneeded held .grant rfl)]
  · intro held id input there settled
    by_cases pending : op.kind = .pendingMode
    · exact (op.exec_pendingMode pending id).2 input there settled
    · rw [frame.inputModes (unneeded held .mode rfl) pending (unneeded held .grant rfl)]
      exact there
  · exact op.exec_inputModes apart able orderly
  · intro held id active
    rw [frame.units (unneeded held .unit rfl)] at active
    exact active
  · intro loop
    exact op.exec_owed (fun mine => apart (mine.trans loop.symm)) orderly
  · exact op.exec_fences
  · intro loop request begun
    rw [frame.fences fun commit => apart ((orderly.loop (.inr (.inr commit))).trans loop.symm)] at begun
    exact begun
  · exact op.exec_launchInterruptEpoch

end

/-- The discipline of the locks. -/
def lockContract (me : Nat) : Contract Op Answer SharedDaemon where
  rely := Undisturbed me
  refl := Undisturbed.refl me
  trans _ _ _ := Undisturbed.trans
  told _ _ _ := True
  guarantee op _ s := op.orderly me s

/-! ## Jobs that keep the discipline -/

/-- The task holds exactly these locks. -/
def Holding (me : Nat) (held : List Lock) : Assertion (lockContract me) where
  holds s := ∀ lock, s.locks lock = some me ↔ lock ∈ held
  stable _ _ changed holds lock := (changed.mine lock).trans (holds lock)

@[grind =] def Kind.permitted (me : Nat) (held : List Lock) : Kind → Prop
  | .lock | .hold => False
  | .domain | .process | .mode | .unit | .sleep | .session => .transition ∈ held
  | .grant => .transition ∈ held ∧ .inputModes ∈ held
  | .ready | .assess | .commit => me = loopTask
  | _ => True

/-- Whatever happens, the job keeps the discipline, and ends with the locks that it began with. -/
abbrev Orderly (me : Nat) (held : List Lock) {α : Type} (job : Job α) : Prop := Keeps (operations me) (Holding me held) job

section
variable {me : Nat} {held : List Lock} {α β : Type} {job : Job α}

theorem Op.orderly_permitted {op : Op α} {s : SharedDaemon} (permitted : op.kind.permitted me held) (holds : Holding me held s) :
    op.orderly me s ∧ ∀ answer, Holding me held (op.exec me answer s).2 := by
  refine ⟨?_, fun answer lock => ?_⟩
  · cases op with
    | acquire lock => exact trivial
    | release lock failed => cases lock <;> cases permitted
    | commitReady id => exact ⟨(holds _).mpr permitted.1, (holds _).mpr permitted.2⟩
    | edit change => cases change <;> first
      | exact trivial
      | exact (holds _).mpr permitted
      | exact .inl ((holds _).mpr permitted)
    | call made =>
      have same : (Op.call made).kind = made.kind := rfl
      rw [same] at permitted
      unfold Op.orderly
      simp only [same]
      rcases made.kind_cases with kind | kind | kind
      · rw [kind] at permitted ⊢
        exact (holds _).mpr permitted
      · rw [kind]
        exact trivial
      · rw [kind]
        exact trivial
    | _ => first
      | exact trivial
      | exact permitted
      | exact (holds _).mpr permitted
  · rw [(op.frame me answer s).locks ?_ ?_]
    · exact holds lock
    · intro kind
      rw [kind] at permitted
      cases permitted
    · intro kind
      rw [kind] at permitted
      cases permitted

@[grind ←] theorem orderly_perform {op : Op α} (permitted : op.kind.permitted me held) : Orderly me held (perform op) :=
  Programs.Job.spec_op fun _ holds _ answer _ =>
    ⟨(op.orderly_permitted permitted holds).1, (op.orderly_permitted permitted holds).2 answer⟩

@[grind ←] theorem orderly_attempt {op : Op (Except String α)} (permitted : op.kind.permitted me held) : Orderly me held (attempt op) := by
  refine Programs.Job.spec_try ?_
  intro s holds _ answer _
  obtain ⟨guaranteed, after⟩ := op.orderly_permitted permitted holds
  refine ⟨guaranteed, ?_⟩
  split <;> exact after answer

@[grind ←] theorem orderly_call {made : Call α} (permitted : made.kind.permitted me held) : Orderly me held (call made) :=
  orderly_attempt permitted

/-- A lock is let go, however the body ends. -/
theorem orderly_bracket {lock : Lock} {body : Job α} (failed : Except String α → Bool) (free : lock ∉ held)
    (kept : Orderly me (lock :: held) body) :
    Orderly me held (do
      perform (.acquire lock)
      let result ← Programs.Job.outcome body
      perform (.release lock (failed result))
      Programs.Job.ofResult result) := by
  refine Programs.Job.Spec.bind (M := fun _ => Holding me (lock :: held)) (Programs.Job.spec_op ?_) fun _ => ?_
  · intro s holds able _ _
    refine ⟨trivial, fun other => ?_⟩
    by_cases same : other = lock
    · subst same
      simp [operations, Op.exec]
    · simpa [operations, Op.exec, same] using holds other
  · refine Programs.Job.Spec.bind (M := fun _ => Holding me (lock :: held)) (F := fun _ => Holding me held) ?_ fun result => ?_
    · refine Programs.Job.Spec.weaken (Programs.Job.Spec.outcome (G := fun _ => Holding me held) kept) (fun _ h => h) ?_
        fun _ _ h => h
      intro result s ends
      cases result <;> exact ends
    refine Programs.Job.Spec.bind (M := fun _ => Holding me held) (Programs.Job.spec_op ?_)
      fun _ => Programs.Job.keeps_ofResult result
    intro s holds _ _ _
    refine ⟨(holds lock).mpr (by simp), fun other => ?_⟩
    by_cases same : other = lock
    · subst same
      simp [operations, Op.exec, free]
    · simpa [operations, Op.exec, same] using holds other

@[grind ←] theorem orderly_locked {body : Job α} (free : .transition ∉ held) (kept : Orderly me (.transition :: held) body) :
    Orderly me held (locked body) := orderly_bracket (fun result => !result.isOk) free kept

@[grind ←] theorem orderly_holding {lock : Lock} {body : Job α} (free : lock ∉ held) (kept : Orderly me (lock :: held) body) :
    Orderly me held (holding lock body) := orderly_bracket (fun _ => false) free kept

/-- What performs only operations that the locks allow keeps the discipline. -/
theorem orderly_within {kinds : Kind → Bool} (within : Within kinds job)
    (permitted : ∀ kind, kinds kind → kind.permitted me held) : Orderly me held job := by
  refine Programs.Job.Only.spec within ?_
  intro γ op allowed s holds _ answer _
  obtain ⟨guaranteed, after⟩ := op.orderly_permitted (permitted op.kind allowed) holds
  exact ⟨guaranteed, after answer⟩

/-! ### The handlers -/

/-- What the transition lock allows. -/
@[grind =] def lockedKinds : Kind → Bool
  | .look | .count | .domain | .sleep | .manifests | .session | .process | .mode | .pendingMode | .report | .cover | .event
  | .unit | .display | .outside => true
  | .assess | .lock | .hold | .commit | .grant | .ready => false

/-- What needs no lock. -/
@[grind =] def freeKinds : Kind → Bool
  | .look | .count | .manifests | .pendingMode | .report | .cover | .event | .display | .outside => true
  | .assess | .lock | .hold | .commit | .domain | .grant | .ready | .sleep | .session | .process | .mode | .unit => false

theorem orderly_lockedKinds (mine : .transition ∈ held) (within : Within lockedKinds job) : Orderly me held job := by
  refine orderly_within within ?_
  intro kind there
  cases kind <;> first
    | exact mine
    | exact trivial
    | cases there

theorem orderly_freeKinds (within : Within freeKinds job) : Orderly me held job := by
  refine orderly_within within ?_
  intro kind there
  cases kind <;> first
    | exact trivial
    | cases there

@[grind ←] theorem restoreSystem_orderly (free : .transition ∉ held) : Orderly me held restoreSystem := by
  unfold restoreSystem
  refine orderly_locked free (orderly_lockedKinds (by simp) ?_)
  refine only_bind (by grind) fun _ => only_ite (fun _ => only_pure ()) fun _ => ?_
  repeat refine only_bind (by grind) fun _ => ?_
  grind

@[grind ←] theorem enterManager_orderly (free : .transition ∉ held) : Orderly me held enterManager := by
  unfold enterManager
  refine orderly_locked free (orderly_lockedKinds (by simp) ?_)
  repeat refine only_bind (by grind) fun _ => ?_
  grind

@[grind ←] theorem close_orderly {id : AppId} {complete : Bool} (free : .transition ∉ held) : Orderly me held (close id complete) := by
  unfold close
  refine orderly_locked free (orderly_lockedKinds (by simp) ?_)
  repeat refine only_bind (by grind) fun _ => ?_
  grind

@[grind ←] theorem recordRuntimeExit_orderly {id : AppId} {generation : Nat} {exitCode : Int} {crashed : Bool}
    {source : ExitReportSource} (free : .transition ∉ held) :
    Orderly me held (recordRuntimeExit id generation exitCode crashed source) := by
  unfold recordRuntimeExit
  refine orderly_locked free (orderly_lockedKinds (by simp) ?_)
  refine only_bind (by grind) fun _ => only_ite (fun _ => only_pure ()) fun _ => ?_
  refine only_bind (by grind) fun _ => only_bind (by grind) fun _ => only_ite (fun _ => only_pure ()) fun _ => ?_
  repeat refine only_bind (by grind) fun _ => ?_
  grind

@[grind ←] theorem resuspendLocked_orderly {sleepEpoch sleepRevision interactionEpoch : Nat} (free : .transition ∉ held) :
    Orderly me held (resuspendLocked sleepEpoch sleepRevision interactionEpoch) := by
  unfold resuspendLocked
  refine orderly_locked free (orderly_lockedKinds (by simp) ?_)
  refine only_bind (by grind) fun _ => only_ite (fun _ => only_pure ()) fun _ => ?_
  refine only_bind (by grind) fun _ => only_bind (by grind) fun _ => only_ite (fun _ => only_pure ()) fun _ => ?_
  refine only_bind (by grind) fun _ => only_bind (by grind) fun _ => only_ite (fun _ => by grind) fun _ => ?_
  refine only_bind (by grind) fun suspended => only_bind (by grind) fun wakelock => ?_
  cases suspended with
  | error error => grind
  | ok _ =>
    refine only_bind (by grind) fun guard => ?_
    cases guard <;> cases wakelock <;> grind

@[grind ←] theorem validateForegroundToken_orderly {token : AppToken} (free : .transition ∉ held) :
    Orderly me held (validateForegroundToken token) := by
  unfold validateForegroundToken
  refine orderly_locked free (orderly_lockedKinds (by simp) ?_)
  grind

@[grind ←] theorem validateForegroundPeer_orderly {peer : AppId} (free : .transition ∉ held) :
    Orderly me held (validateForegroundPeer peer) := by
  unfold validateForegroundPeer
  refine orderly_locked free (orderly_lockedKinds (by simp) ?_)
  grind

@[grind ←] theorem commitRestoredForeground_orderly {token : AppToken} (mine : held = [.transition]) :
    Orderly me held (commitRestoredForeground token) := by
  subst mine
  unfold commitRestoredForeground
  refine orderly_holding (by simp) (orderly_lockedKinds (by simp) ?_)
  repeat refine only_bind (by grind) fun _ => ?_
  grind

theorem restoreForegroundAfterFailedPark_orderly (id : AppId) (manifest : AppManifest) (fence : ForegroundFence) :
    Orderly me [.transition] (restoreForegroundAfterFailedPark id manifest fence) := by
  unfold restoreForegroundAfterFailedPark
  repeat refine keeps_bind (orderly_lockedKinds (by simp) (by grind)) fun _ => ?_
  exact commitRestoredForeground_orderly rfl

theorem recoverFailedPark_orderly (id : AppId) (manifest : AppManifest) (fence : Option ForegroundFence) :
    Orderly me [.transition] (recoverFailedPark id manifest fence) := by
  unfold recoverFailedPark
  refine keeps_bind (keeps_outcome ?_) fun restored => ?_
  · cases fence with
    | none => exact keeps_throw _
    | some fence => exact restoreForegroundAfterFailedPark_orderly id manifest fence
  · cases restored with
    | ok _ => exact keeps_pure _
    | error error => exact orderly_lockedKinds (by simp) (by grind)

@[grind .] theorem park_orderly (id : AppId) (returningSystem showManager : Bool) :
    Orderly me [] (park id returningSystem showManager) := by
  unfold park
  refine orderly_locked (by simp) ?_
  refine keeps_bind (orderly_lockedKinds (by simp) (by grind)) fun _ => ?_
  refine keeps_bind (keeps_ofOption _ _) fun manifest => ?_
  refine keeps_bind (orderly_lockedKinds (by simp) (by grind)) fun fence => ?_
  refine keeps_bind (orderly_lockedKinds (by simp) (by grind)) fun _ => ?_
  refine keeps_bind (orderly_lockedKinds (by simp) (by grind)) fun result => ?_
  cases result with
  | ok _ => exact keeps_pure ()
  | error cause =>
    refine keeps_bind (keeps_outcome (recoverFailedPark_orderly id manifest fence)) fun recovery => ?_
    cases recovery <;> exact keeps_throw _

/-- What the event loop may do under the transition lock. -/
@[grind =] def loopKinds : Kind → Bool
  | .look | .count | .domain | .sleep | .manifests | .session | .process | .mode | .pendingMode | .report | .cover | .event
  | .unit | .display | .outside | .commit => true
  | .assess | .lock | .hold | .grant | .ready => false

theorem orderly_loopKinds (mine : .transition ∈ held) (within : Within loopKinds job) : Orderly loopTask held job := by
  refine orderly_within within ?_
  intro kind there
  cases kind <;> first
    | exact mine
    | exact trivial
    | exact rfl
    | cases there

theorem commitLaunch_orderly (context : LaunchContext) (queued : QueuedEvent) :
    Orderly loopTask [.transition] (commitLaunch context queued) := by
  unfold commitLaunch
  repeat refine keeps_bind (orderly_loopKinds (by simp) (by grind)) fun _ => ?_
  refine orderly_holding (by simp) ?_
  refine keeps_bind (orderly_loopKinds (by simp) (by grind)) fun _ => keeps_bind (keeps_ofOption _ _) fun input => ?_
  refine keeps_bind (keeps_require _ _) fun _ => ?_
  repeat refine keeps_bind (orderly_loopKinds (by simp) (by grind)) fun _ => ?_
  exact orderly_attempt ⟨by simp, by simp⟩

theorem launchFromManager_orderly (id : AppId) (openPath : Option String) (queued : QueuedEvent) :
    Orderly loopTask [.transition] (launchFromManager id openPath queued) := by
  unfold launchFromManager
  refine keeps_bind (orderly_loopKinds (by simp) (by grind)) fun _ => ?_
  refine keeps_bind (keeps_require _ _) fun _ => ?_
  refine keeps_bind (orderly_loopKinds (by simp) (by grind)) fun context => ?_
  refine keeps_bind (orderly_loopKinds (by simp) (by grind)) fun applied => ?_
  cases applied with
  | error error => exact orderly_loopKinds (by simp) (by grind)
  | ok _ =>
    refine keeps_bind (orderly_loopKinds (by simp) (by grind)) fun activated => ?_
    cases activated with
    | error error => exact orderly_loopKinds (by simp) (by grind)
    | ok _ =>
      refine keeps_bind (keeps_outcome (commitLaunch_orderly context queued)) fun committed => ?_
      cases committed with
      | error error => exact orderly_loopKinds (by simp) (by grind)
      | ok _ => exact keeps_pure ()

@[grind .] theorem launchCurrent_orderly (id : AppId) (openPath : Option String) (queued : QueuedEvent) :
    Orderly loopTask [] (launchCurrent id openPath queued) := by
  unfold launchCurrent
  exact keeps_bind (orderly_freeKinds (by grind)) fun _ => orderly_locked (by simp) (launchFromManager_orderly id openPath queued)

@[grind .] theorem launch_orderly (id : AppId) (openPath : Option String) (queued : QueuedEvent) :
    Orderly loopTask [] (launch id openPath queued) := by
  unfold launch
  refine keeps_bind (orderly_freeKinds (by grind)) fun _ => keeps_bind (orderly_freeKinds (by grind)) fun domain => ?_
  refine keeps_bind (keeps_ofResult _) fun route => ?_
  cases route with
  | alreadyForeground => exact keeps_pure ()
  | park current => exact keeps_bind (park_orderly _ _ _) fun _ => launchCurrent_orderly id openPath queued
  | manager => exact launchCurrent_orderly id openPath queued

@[grind .] theorem sleep_orderly (lockSurfaceSequence : Nat) (queued : QueuedEvent) :
    Orderly loopTask [] (sleep lockSurfaceSequence queued) := by
  unfold sleep
  refine orderly_locked (by simp) ?_
  refine keeps_bind (orderly_loopKinds (by simp) (by grind)) fun epochs => ?_
  refine orderly_loopKinds (by simp) ?_
  repeat refine only_bind (by grind) fun _ => ?_
  grind

@[grind .] theorem wake_orderly (managerSurfaceSequence : Nat) (queued : QueuedEvent) :
    Orderly loopTask [] (wake managerSurfaceSequence queued) := by
  unfold wake
  refine orderly_locked (by simp) (orderly_loopKinds (by simp) ?_)
  refine only_bind (by grind) fun _ => only_ite (fun _ => only_pure ()) fun _ => ?_
  repeat refine only_bind (by grind) fun _ => ?_
  grind

@[grind ←] theorem ensureManagerOrRestore_orderly (free : .transition ∉ held) : Orderly me held ensureManagerOrRestore := by
  unfold ensureManagerOrRestore
  refine keeps_bind (orderly_freeKinds (by grind)) fun ensured => ?_
  cases ensured with
  | ok _ => exact keeps_pure ()
  | error _ => exact restoreSystem_orderly free

@[grind ←] theorem reloadManifests_orderly (free : .transition ∉ held) : Orderly me held reloadManifests := by
  unfold reloadManifests
  repeat refine keeps_bind (orderly_freeKinds (by grind)) fun _ => ?_
  refine keeps_ite (fun _ => ?_) fun _ => keeps_pure ()
  refine keeps_bind (orderly_freeKinds (by grind)) fun restarted => ?_
  cases restarted with
  | ok _ => exact keeps_pure ()
  | error _ => exact restoreSystem_orderly free

@[grind .] theorem singlePower_orderly (queued : QueuedEvent) : Orderly loopTask [] (singlePower queued) := by
  unfold singlePower
  refine keeps_bind (orderly_freeKinds (by grind)) fun domain => ?_
  cases domain <;> try exact keeps_pure ()
  case manager =>
    refine keeps_bind (orderly_freeKinds (by grind)) fun last => ?_
    cases last with
    | none => exact keeps_pure ()
    | some app => exact launch_orderly app none queued
  case foreground app => exact park_orderly _ _ _
  case sleeping => exact orderly_freeKinds (by grind)

@[grind .] theorem triplePower_orderly : Orderly loopTask [] triplePower := by
  unfold triplePower
  refine keeps_bind (orderly_freeKinds (by grind)) fun domain => ?_
  cases domain <;> try exact keeps_pure ()
  case system => exact enterManager_orderly (by simp)
  case foreground app => exact keeps_bind (park_orderly _ _ _) fun _ => restoreSystem_orderly (by simp)
  case manager => exact restoreSystem_orderly (by simp)
  case sleeping => exact restoreSystem_orderly (by simp)

@[grind .] theorem openManager_orderly : Orderly loopTask [] openManager := by
  unfold openManager
  refine keeps_bind (orderly_freeKinds (by grind)) fun domain => ?_
  cases domain <;> try exact keeps_pure ()
  case system => exact enterManager_orderly (by simp)
  case foreground app => exact park_orderly _ _ _
  case manager => exact orderly_freeKinds (by grind)
  case sleeping => exact orderly_freeKinds (by grind)

@[grind .] theorem handleAutoSleep_orderly (activityRevision : Nat) (queued : QueuedEvent) :
    Orderly loopTask [] (handleAutoSleep activityRevision queued) := by
  unfold handleAutoSleep
  refine keeps_bind (orderly_freeKinds (by grind)) fun _ => keeps_ite (fun _ => keeps_pure ()) fun _ => ?_
  refine keeps_bind (orderly_freeKinds (by grind)) fun _ => keeps_ite (fun _ => keeps_pure ()) fun _ => ?_
  refine keeps_bind (orderly_freeKinds (by grind)) fun domain => ?_
  cases domain <;> try exact keeps_pure ()
  case manager => exact orderly_freeKinds (by grind)
  case foreground app => exact keeps_bind (park_orderly _ _ _) fun _ => orderly_freeKinds (by grind)

@[grind .] theorem handleCoverClosed_orderly (queued : QueuedEvent) : Orderly loopTask [] (handleCoverClosed queued) := by
  unfold handleCoverClosed
  refine keeps_bind (orderly_freeKinds (by grind)) fun _ => keeps_bind (orderly_freeKinds (by grind)) fun domain => ?_
  cases domain <;> try exact orderly_freeKinds (by grind)
  case foreground app =>
    refine keeps_bind (orderly_freeKinds (by grind)) fun _ => keeps_bind (park_orderly _ _ _) fun _ => ?_
    exact orderly_freeKinds (by grind)

@[grind .] theorem recordAppReady_orderly (id : AppId) : Orderly loopTask [] (recordAppReady id) := orderly_attempt rfl

@[grind .] theorem handleDisplayHostExited_orderly (stateSequence sleepRevision : Nat) :
    Orderly loopTask [] (handleDisplayHostExited stateSequence sleepRevision) := by
  unfold handleDisplayHostExited
  refine keeps_bind (orderly_freeKinds (by grind)) fun _ => keeps_bind (orderly_freeKinds (by grind)) fun _ => ?_
  exact keeps_ite (fun _ => restoreSystem_orderly (by simp)) fun _ => keeps_pure ()

@[grind .] theorem validateRuntimeLaunchAuthority_orderly (authority : RuntimeLaunchAuthority) :
    Orderly me [] (validateRuntimeLaunchAuthority authority) := by
  cases authority with
  | legacyPeer peer => exact validateForegroundPeer_orderly (by simp)
  | foregroundToken token => exact validateForegroundToken_orderly (by simp)

/-- The event loop saves a parked session without the lock. -/
theorem saveSession_orderly {session : AppSession} (parked : session.status ≠ .background) :
    Orderly loopTask [] (saveSession session) := by
  unfold saveSession
  refine keeps_bind (orderly_call trivial) fun _ => Programs.Job.spec_op ?_
  intro s holds _ _ _
  exact ⟨.inr ⟨rfl, session, rfl, parked⟩, holds⟩

theorem recordParked_orderly {session : AppSession} (parked : session.status ≠ .background) :
    Orderly loopTask [] (recordParked session) := by
  unfold recordParked
  refine keeps_bind (orderly_freeKinds (by grind)) fun _ => keeps_ite (fun _ => keeps_pure ()) fun _ => ?_
  refine keeps_bind (orderly_freeKinds (by grind)) fun _ => keeps_ite (fun _ => keeps_pure ()) fun _ => ?_
  refine keeps_bind (saveSession_orderly parked) fun _ => keeps_bind (orderly_freeKinds (by grind)) fun _ => ?_
  exact orderly_attempt rfl

theorem changePackage_orderly (request : PackageRequest) : Orderly me [.package] (changePackage request) := by
  cases request with
  | install found =>
    refine keeps_bind (orderly_freeKinds (by grind)) fun _ => keeps_bind (orderly_freeKinds (by grind)) fun _ => ?_
    refine keeps_bind (orderly_freeKinds (by grind)) fun _ => ?_
    exact keeps_bind (keeps_doIf (close_orderly (by simp))) fun _ => orderly_freeKinds (by grind)
  | upgrade expected found =>
    refine keeps_bind (orderly_freeKinds (by grind)) fun _ => keeps_bind (orderly_freeKinds (by grind)) fun _ => ?_
    refine keeps_bind (keeps_require _ _) fun _ => keeps_bind (orderly_freeKinds ?_) fun _ => ?_
    · unfold installed
      grind
    · exact keeps_bind (close_orderly (by simp)) fun _ => orderly_freeKinds (by grind)
  | rollback app =>
    refine keeps_bind (orderly_freeKinds ?_) fun _ => keeps_bind (orderly_freeKinds (by grind)) fun _ => ?_
    · unfold installed
      grind
    · exact keeps_bind (close_orderly (by simp)) fun _ => orderly_freeKinds (by grind)
  | uninstall app =>
    refine keeps_bind (orderly_freeKinds (by grind)) fun _ => keeps_bind (keeps_ofOption _ _) fun _ => ?_
    refine keeps_bind (keeps_require _ _) fun _ => ?_
    exact keeps_bind (close_orderly (by simp)) fun _ => orderly_freeKinds (by grind)

theorem packageReply_orderly (request : PackageRequest) : Orderly me [] (packageReply request) :=
  orderly_holding (by simp) (keeps_bind (changePackage_orderly request) fun _ => reloadManifests_orderly (by simp))

theorem setActiveInputMode_orderly (token : AppToken) (mode : InputMode) : Orderly me [] (setActiveInputMode token mode) := by
  unfold setActiveInputMode
  refine orderly_locked (by simp) (keeps_bind (orderly_lockedKinds (by simp) (by grind)) fun domain => ?_)
  refine orderly_holding (by simp) (orderly_lockedKinds (by simp) ?_)
  repeat refine only_bind (by grind) fun _ => ?_
  grind

theorem setInputMode_orderly (token : AppToken) (mode : InputMode) : Orderly me [] (setInputMode token mode) := by
  unfold setInputMode
  refine keeps_bind (keeps_ofResult _) fun _ => keeps_bind (orderly_freeKinds ?_) fun answered => ?_
  · unfold setPendingInputMode
    refine only_bind (by grind) fun domain => only_ite (fun _ => by grind) fun _ => only_pure _
  · cases answered with
    | some result => exact keeps_ofResult result
    | none => exact setActiveInputMode_orderly token mode

theorem enqueueRunnerExit_orderly (app : AppId) (generation : Nat) (exitCode : Int) (crashed : Bool) :
    Orderly me [] (enqueueRunnerExit app generation exitCode crashed) := by
  unfold enqueueRunnerExit
  exact orderly_freeKinds (by grind)

theorem openApp_orderly (authority : RuntimeLaunchAuthority) (app : AppId) (openPath : Option String) :
    Orderly me [] (openApp authority app openPath) :=
  keeps_bind (validateRuntimeLaunchAuthority_orderly authority) fun _ => orderly_freeKinds (by grind)

/-- An application that says it is parked is not in the background. -/
def Event.wellFormed : Event → Prop
  | .appParked session => session.status ≠ .background
  | _ => True

theorem handleEvent_orderly {queued : QueuedEvent} (wellFormed : queued.event.wellFormed) :
    Orderly loopTask [] (handleEvent queued) := by
  unfold handleEvent
  cases event : queued.event with
  | appParked session =>
    rw [event] at wellFormed
    exact recordParked_orderly wellFormed
  | runtimeLaunch authority app openPath =>
    exact keeps_bind (validateRuntimeLaunchAuthority_orderly authority) fun _ => launch_orderly app openPath queued
  | package => exact orderly_freeKinds (by unfold package; grind)
  | coverOpened => exact orderly_freeKinds (by grind)
  | _ => grind

theorem recoverAfterFailure_orderly (answered : Except String Unit) : Orderly loopTask [] (recoverAfterFailure answered) := by
  cases answered with
  | ok _ => exact keeps_pure ()
  | error error =>
    unfold recoverAfterFailure
    refine keeps_bind (orderly_perform rfl) fun domain => ?_
    cases domain <;> first
      | exact keeps_pure ()
      | exact restoreSystem_orderly (by simp)
      | exact ensureManagerOrRestore_orderly (by simp)
      | skip
    refine keeps_bind (orderly_freeKinds ?_) fun healthy => ?_
    · unfold retainedSleepLockIsHealthy
      grind
    · exact keeps_ite (fun _ => keeps_pure ()) fun _ => restoreSystem_orderly (by simp)

/-! ### The tasks -/

theorem attend_orderly {queued : QueuedEvent} (wellFormed : queued.event.wellFormed) :
    (attend queued).Spec (operations loopTask) (Holding loopTask []) fun _ => Holding loopTask [] := by
  unfold attend
  refine Program.Spec.bind (M := fun _ => Holding loopTask []) (Program.spec_op fun s holds _ _ _ => ⟨trivial, holds⟩)
    fun cancelled => ?_
  cases cancelled with
  | true => exact Program.spec_pure fun _ holds => holds
  | false => exact (handleEvent_orderly wellFormed).run

theorem answerOnly_orderly {job : Job Bool} (orderly : Orderly me [] job) :
    (answerOnly job).Spec (operations me) (Holding me []) fun _ => Holding me [] :=
  Program.Spec.bind orderly.run fun _ => Program.spec_pure fun _ holds => holds

/-- The event loop serves events, and the other tasks do the rest. -/
def Role.wellFormed (me : Nat) : Role → Prop
  | .serving queued => me = loopTask ∧ queued.event.wellFormed
  | _ => me ≠ loopTask

/-- Every task keeps the discipline of the locks, and ends without one. -/
theorem Role.orderly {role : Role} (wellFormed : role.wellFormed me) :
    role.program.Spec (operations me) (Holding me []) fun _ => Holding me [] := by
  cases role with
  | serving queued =>
    obtain ⟨rfl, wellFormed⟩ := wellFormed
    refine Program.Spec.bind (attend_orderly wellFormed) fun answered => ?_
    exact Program.Spec.bind (recoverAfterFailure_orderly answered).run fun _ => Program.spec_pure fun _ holds => holds
  | package request => exact answerOnly_orderly (keeps_bind (packageReply_orderly request) fun _ => keeps_pure _)
  | inputMode token mode => exact answerOnly_orderly (setInputMode_orderly token mode)
  | runnerExit app generation exitCode crashed =>
    exact answerOnly_orderly (keeps_bind (enqueueRunnerExit_orderly app generation exitCode crashed) fun _ => keeps_pure _)
  | handoff authority app openPath =>
    exact answerOnly_orderly (keeps_bind (openApp_orderly authority app openPath) fun _ => keeps_pure _)

end

end Remagic.Daemon
