import Remagic.DaemonLookout
import Remagic.SystemController

/-!
# The wake lock

While Home or an application is on the panel the device is kept awake by a wake lock. It
is taken before the domain is managed, let go for a suspend while the device sleeps, and
taken again before the domain is managed again.
-/

namespace Remagic.Daemon
open Supervisor
open Programs (Program Contract Assertion Discipline)
open Programs.Job (Spec Keeps Only keeps_pure keeps_throw keeps_bind keeps_ite keeps_outcome keeps_ofResult keeps_require
  only_bind only_pure only_ite)

/-! ## What becomes of the wake lock -/

/-- Home or an application is on the panel, or the one is about to replace the other. -/
def DomainState.managed : DomainState → Bool
  | .manager | .launching _ | .foreground _ | .parking _ => true
  | .system | .enteringManaged | .restoringSystem | .sleeping | .recovering => false

/-- What a call makes of the wake lock: a failure to take it or to let it go may have
    taken effect, and the stock shell takes over whether it is let go or not. -/
def Call.wakelock {β : Type} (made : Call β) (answer : Answer) (held : Bool) : Bool :=
  match made with
  | .acquireWakelock | .enterManaged => held || answer.ok || answer.took
  | .suspend => held && !(answer.ok || answer.took)
  | .restoreSystem => held && !(answer.ok && answer.took)
  | _ => held

def Op.wakelock {β : Type} (op : Op β) (answer : Answer) (held : Bool) : Bool :=
  match op with
  | .call made => made.wakelock answer held
  | _ => held

def Op.suspends {β : Type} : Op β → Bool
  | .call .suspend => true
  | _ => false

def Op.handsBack {β : Type} : Op β → Bool
  | .call .restoreSystem => true
  | _ => false

/-- The transition that the operation may apply. -/
def Op.makes {β : Type} (op : Op β) (transition : Transition) : Prop :=
  match op with
  | .apply other => transition = other
  | .beginPark _ returningSystem => transition = if returningSystem then .triplePower else .singlePower
  | .finishPark id | .appParked id => transition = .appParked id
  | .appReady id | .commitReady id => transition = .appReady id
  | .closed id _ | .stopped id => transition = .appExited id
  | _ => False

/-- The daemon and the wake lock. -/
structure Wakeful where
  daemon : SharedDaemon
  held : Bool

/-- In the managed domain the wake lock is held. -/
def Wakeful.awake (s : Wakeful) : Prop := s.daemon.domain.managed = true → s.held = true

def waking (me : Nat) : Programs.Meaning Op Answer Wakeful where
  ready op s := op.ready me s.daemon
  exec op answer s := ((op.exec me answer s.daemon).1, ⟨(op.exec me answer s.daemon).2, op.wakelock answer s.held⟩)

section
variable {me : Nat} {β : Type} {op : Op β} {answer : Answer} {s : SharedDaemon}

theorem Op.wakelock_calm (calm : op.errand ≠ .wakeful) (answer : Answer) (held : Bool) : op.wakelock answer held = held := by
  cases op with
  | call made => cases made <;> first | rfl | exact absurd rfl calm
  | _ => rfl

/-- Only two transitions lead into the managed domain. -/
theorem ManagerState.target_managed {state : ManagerState} {transition : Transition} {next : DomainState}
    (valid : state.target transition = some next) (calm : transition.errand ≠ .wakeful) (managed : next.managed = true) :
    state.domain.managed = true := by
  unfold ManagerState.target at valid
  split at valid <;> first
    | cases valid; done
    | exact absurd rfl calm
    | skip
  all_goals first
    | rw [‹state.domain = _›]; rfl
    | cases valid; cases managed

theorem SharedDaemon.apply_sleep (applied : (s.apply .sleep).1.isOk = true) : (s.apply .sleep).2.domain = .sleeping := by
  unfold SharedDaemon.apply at applied ⊢
  split
  next state valid =>
    obtain ⟨next, target, rfl⟩ := Option.map_eq_some_iff.mp valid
    have asleep : next = .sleeping := by cases domain : s.state.domain <;> simp_all [ManagerState.target]
    exact asleep
  next refused =>
    rw [refused] at applied
    cases applied

theorem SharedDaemon.clearClosedLastApp_domain (id : AppId) (s : SharedDaemon) : (s.clearClosedLastApp id).domain = s.domain := by
  unfold SharedDaemon.clearClosedLastApp
  split <;> rfl

theorem Op.wakelock_gone (gone : op.wakelock answer true = false) : op.suspends = true ∨ op.handsBack = true := by
  cases op with
  | call made => cases made <;> first | exact .inl rfl | exact .inr rfl | cases gone
  | _ => cases gone

/-- The domain stays, or the transition leads to where it is afterwards. -/
def SharedDaemon.led (transition : Transition) (s t : SharedDaemon) : Prop :=
  t.domain = s.domain ∨ s.state.target transition = some t.domain

theorem SharedDaemon.apply_led (transition : Transition) (s : SharedDaemon) : SharedDaemon.led transition s (s.apply transition).2 := by
  unfold SharedDaemon.apply
  split
  next state valid =>
    obtain ⟨next, target, rfl⟩ := Option.map_eq_some_iff.mp valid
    exact .inr target
  next => exact .inl rfl

theorem SharedDaemon.closed_led (id : AppId) (wasForeground : Bool) (s : SharedDaemon) :
    SharedDaemon.led (.appExited id) s (s.closed id wasForeground).2 := by
  have applied := s.apply_led (.appExited id)
  unfold SharedDaemon.closed
  split
  · split
    next after same =>
      rw [same] at applied
      unfold SharedDaemon.led
      simp only [SharedDaemon.clearClosedLastApp_domain]
      exact applied
    next => exact applied
  · exact .inl (SharedDaemon.clearClosedLastApp_domain id s)

theorem SharedDaemon.commitReady_led (id : AppId) (answer : Answer) (s : SharedDaemon) :
    SharedDaemon.led (.appReady id) s (s.commitReady id answer).2 := by
  have applied := s.apply_led (.appReady id)
  unfold SharedDaemon.commitReady
  split
  next after same =>
    rw [same] at applied
    rw [SharedDaemon.marked_snd]
    exact applied
  next => exact applied

/-- An operation leaves the domain, or leads it by a transition, or has the stock system restored. -/
theorem Op.exec_domain (op : Op β) (me : Nat) (answer : Answer) (s : SharedDaemon) :
    (op.exec me answer s).2.domain = .restoringSystem ∨ (op.exec me answer s).2.domain = s.domain ∨
      ∃ transition, op.makes transition ∧ s.state.target transition = some (op.exec me answer s).2.domain := by
  have leads : ∀ {transition : Transition}, op.makes transition → SharedDaemon.led transition s (op.exec me answer s).2 →
      (op.exec me answer s).2.domain = .restoringSystem ∨ (op.exec me answer s).2.domain = s.domain ∨
        ∃ transition, op.makes transition ∧ s.state.target transition = some (op.exec me answer s).2.domain :=
    fun makes led => .inr (led.imp_right fun target => ⟨_, makes, target⟩)
  by_cases kind : op.kind = .domain ∨ op.kind = .grant ∨ op.kind = .ready
  · cases op with
    | apply transition => exact leads rfl (s.apply_led transition)
    | beginRestore => exact .inl rfl
    | beginPark id returningSystem =>
      refine leads rfl ?_
      by_cases foreground : s.domain = .foreground id
      · simp only [Op.exec, SharedDaemon.beginPark, if_pos foreground]
        exact s.apply_led _
      · simp only [Op.exec, SharedDaemon.beginPark, if_neg foreground]
        exact .inl rfl
    | finishPark id =>
      refine leads rfl ?_
      simp only [Op.exec, SharedDaemon.finishPark]
      repeat' split
      · exact s.apply_led _
      · exact .inl rfl
      · exact .inl rfl
    | appParked id =>
      refine leads rfl ?_
      simp only [Op.exec, SharedDaemon.appParked]
      split
      · exact s.apply_led _
      · exact .inl rfl
    | appReady id =>
      refine leads rfl ?_
      simp only [Op.exec, SharedDaemon.appReady]
      split
      · rw [SharedDaemon.marked_snd]
        exact s.apply_led _
      · exact .inl rfl
    | closed id wasForeground => exact leads rfl (s.closed_led id wasForeground)
    | stopped id =>
      refine leads rfl ?_
      simp only [Op.exec, SharedDaemon.stopped]
      repeat' split
      · exact s.apply_led _
      · exact .inl rfl
      · exact .inl rfl
    | commitReady id => exact leads rfl (s.commitReady_led id answer)
    | acquire lock => cases lock <;> simp [Op.kind, Lock.kind] at kind
    | release lock failed => cases lock <;> simp [Op.kind, Lock.kind] at kind
    | edit change => cases change <;> simp [Op.kind, Edit.kind] at kind
    | call made => rcases made.kind_cases with same | same | same <;> simp [Op.kind, same] at kind
    | _ => simp [Op.kind] at kind
  · have same := (op.frame me answer s).state (fun h => kind (.inl h)) (fun h => kind (.inr (.inl h))) fun h => kind (.inr (.inr h))
    exact .inr (.inl (congrArg ManagerState.domain same))

/-- Whatever else is done, the domain is not managed because of it. -/
theorem Op.exec_managed (calm : op.errand ≠ .wakeful) (managed : (op.exec me answer s).2.domain.managed = true) :
    s.domain.managed = true := by
  rcases op.exec_domain me answer s with restoring | same | ⟨transition, makes, target⟩
  · rw [restoring] at managed
    cases managed
  · rwa [same] at managed
  · refine ManagerState.target_managed target ?_ managed
    cases op with
    | apply other =>
      cases makes
      exact calm
    | beginPark id returningSystem =>
      cases makes
      cases returningSystem <;> decide
    | finishPark id | appParked id | appReady id | closed id wasForeground | stopped id | commitReady id =>
      cases makes
      simp [Transition.errand]
    | _ => cases makes

end

/-! ## What each task answers for -/

/-- What the others leave of the wake lock and of the domain. -/
structure Unmoved (me : Nat) (s t : Wakeful) : Prop where
  mine : t.daemon.locks .transition = some me ↔ s.daemon.locks .transition = some me
  moves : s.daemon.locks .transition = some me → LoopMoves s.daemon.domain t.daemon.domain
  held : s.daemon.locks .transition = some me → t.held = s.held
  awake : s.awake → t.awake

/-- The wake lock is for those under the transition lock. It is let go while the device
    sleeps, and for the stock system. -/
structure Op.Heeds (me : Nat) {β : Type} (op : Op β) (answer : Answer) (s : Wakeful) : Prop where
  locked : op.errand = .wakeful → s.daemon.locks .transition = some me
  asleep : op.suspends = true → s.daemon.domain = .sleeping
  stock : op.handsBack = true → s.daemon.domain = .restoringSystem
  awake : s.awake → ((waking me).exec op answer s).2.awake
  parked : op.errand ≠ .parked

def wakeContract (me : Nat) : Contract Op Answer Wakeful where
  rely := Unmoved me
  refl _ := ⟨Iff.rfl, fun _ => .stay _, fun _ => rfl, fun awake => awake⟩
  trans _ _ _ first second :=
    ⟨second.mine.trans first.mine, fun held => (first.moves held).trans (second.moves (first.mine.mpr held)),
      fun held => (second.held (first.mine.mpr held)).trans (first.held held), fun awake => second.awake (first.awake awake)⟩
  told _ _ _ := True
  guarantee op answer s := op.Heeds me answer s

theorem LoopMoves.unmanaged {before after : DomainState} (moves : LoopMoves before after) (unmanaged : before.managed = false) :
    after = before := by
  cases moves with
  | stay => rfl
  | ready app => cases unmanaged
  | parked app => cases unmanaged

/-- How far the task is: whether it holds the transition lock, and what it knows under it of
    the wake lock and of the domain. -/
def Phase (me : Nat) (inside held : Prop) (domain : Option DomainState) : Assertion (wakeContract me) where
  holds s := s.awake ∧ (inside → s.daemon.locks .transition = some me ∧ (held → s.held = true) ∧
    ∀ known, domain = some known → known.managed = false ∧ s.daemon.domain = known)
  stable s t changed := by
    rintro ⟨awake, within⟩
    refine ⟨changed.awake awake, fun begun => ?_⟩
    obtain ⟨mine, awaken, there⟩ := within begun
    refine ⟨changed.mine.mpr mine, fun known => (changed.held mine).trans (awaken known), fun known same => ?_⟩
    obtain ⟨unmanaged, domain⟩ := there known same
    exact ⟨unmanaged, ((changed.moves mine).unmanaged (by rw [domain]; exact unmanaged)).trans domain⟩

section
variable {me : Nat} {inside held : Prop} {domain : Option DomainState} {α β : Type}
  {F : String → Assertion (wakeContract me)} {Q : α → Assertion (wakeContract me)} {queued : QueuedEvent} {job : Job α}

theorem Op.heeds_calm {op : Op β} (calm : op.errand ≠ .wakeful ∧ op.errand ≠ .parked) (answer : Answer) (s : Wakeful) :
    op.Heeds me answer s where
  locked wakeful := absurd wakeful calm.1
  asleep suspends := by
    cases op with
    | call made => cases made <;> first | cases suspends; done | exact absurd rfl calm.1
    | _ => cases suspends
  stock restores := by
    cases op with
    | call made => cases made <;> first | cases restores; done | exact absurd rfl calm.1
    | _ => cases restores
  awake awake managed := by
    show op.wakelock answer s.held = true
    rw [Op.wakelock_calm calm.1]
    exact awake (Op.exec_managed calm.1 managed)
  parked := calm.2

/-- What is neither of the wake lock nor of the transition lock leaves what the task knows. -/
theorem Op.phase {op : Op β} {s : Wakeful} (holds : Phase me inside held domain s)
    (calm : op.errand ≠ .wakeful ∧ op.errand ≠ .parked)
    (unlocked : op.errand ≠ .lock ∨ ¬inside)
    (still : domain = none ∨ op.kind ≠ .domain ∧ op.kind ≠ .grant ∧ op.kind ≠ .ready) (answer : Answer) :
    op.Heeds me answer s ∧ Phase me inside held domain ((waking me).exec op answer s).2 := by
  have heeds : op.Heeds me answer s := op.heeds_calm calm answer s
  refine ⟨heeds, heeds.awake holds.1, fun begun => ?_⟩
  obtain ⟨mine, awaken, there⟩ := holds.2 begun
  have kept : op.errand ≠ .lock := unlocked.resolve_right (not_not_intro begun)
  refine ⟨(op.exec_transition kept).trans mine, fun known => ?_, fun known same => ?_⟩
  · show op.wakelock answer s.held = true
    rw [Op.wakelock_calm calm.1]
    exact awaken known
  · obtain ⟨unmanaged, domain⟩ := there known same
    rcases still with none | ⟨notDomain, notGrant, notReady⟩
    · rw [none] at same
      cases same
    · refine ⟨unmanaged, ?_⟩
      have state := (op.frame me answer s.daemon).state notDomain notGrant notReady
      show (op.exec me answer s.daemon).2.state.domain = known
      rw [state]
      exact domain

/-- The errands that do not touch the wake lock. -/
@[grind =] def calmErrands : Errand → Bool
  | .wakeful | .parked => false
  | .plain | .lock | .probe | .load | .manifests | .start | .prepare | .package | .scheduling => true

/-- Those of them that a task under the transition lock is on. -/
@[grind =] def insideErrands : Errand → Bool
  | .wakeful | .parked | .lock => false
  | .plain | .probe | .load | .manifests | .start | .prepare | .package | .scheduling => true

/-- The kinds of operations that leave the domain. -/
@[grind =] def stillKinds : Kind → Bool
  | .domain | .grant | .ready => false
  | .look | .assess | .lock | .hold | .commit | .count | .sleep | .manifests | .session | .process | .mode | .pendingMode | .report
  | .cover | .event | .unit | .display | .outside => true

/-- However the job ends, the task knows what it knew. -/
abbrev Minds (me : Nat) (inside held : Prop) (domain : Option DomainState) (job : Job α) : Prop :=
  Keeps (waking me) (Phase me inside held domain) job

theorem minds_calm (bare : Bare calmErrands job) : Minds me False held none job := by
  refine Programs.Job.Only.spec bare ?_
  intro γ op allowed s holds _ answer _
  unfold Op.errandIn at allowed
  refine op.phase holds ⟨fun wakeful => ?_, fun parked => ?_⟩ (.inr not_false) (.inl rfl) answer
  · rw [wakeful] at allowed
    cases allowed
  · rw [parked] at allowed
    cases allowed

theorem minds_inside (bare : Bare insideErrands job) : Minds me True held none job := by
  refine Programs.Job.Only.spec bare ?_
  intro γ op allowed s holds _ answer _
  unfold Op.errandIn at allowed
  refine op.phase holds ⟨fun wakeful => ?_, fun parked => ?_⟩ (.inl fun lock => ?_) (.inl rfl) answer
  · rw [wakeful] at allowed
    cases allowed
  · rw [parked] at allowed
    cases allowed
  · rw [lock] at allowed
    cases allowed

theorem minds_still (bare : Bare insideErrands job) (within : Within stillKinds job) : Minds me True held domain job := by
  refine Programs.Job.Only.spec (bare.and within) ?_
  rintro γ op ⟨allowed, still⟩ s holds _ answer _
  unfold Op.errandIn at allowed
  unfold Op.kindIn at still
  refine op.phase holds ⟨fun wakeful => ?_, fun parked => ?_⟩ (.inl fun lock => ?_) (.inr ⟨?_, ?_, ?_⟩) answer
  · rw [wakeful] at allowed
    cases allowed
  · rw [parked] at allowed
    cases allowed
  · rw [lock] at allowed
    cases allowed
  all_goals
    intro kind
    rw [kind] at still
    cases still

/-- Less may be known. -/
theorem Phase.forget {s : Wakeful} (holds : Phase me inside held domain s) :
    Phase me False False none s := ⟨holds.1, fun none => none.elim⟩

theorem Phase.loosen {s : Wakeful} (holds : Phase me True held domain s) : Phase me True False none s :=
  ⟨holds.1, fun begun => ⟨(holds.2 begun).1, fun none => none.elim, fun known same => (by cases same)⟩⟩

/-! ## The operations of the wake lock -/

/-- The job may end with less known, but under the lock. -/
abbrev Wakes (me : Nat) (held : Prop) (domain : Option DomainState) (job : Job α) : Prop :=
  Spec (waking me) (Phase me True held domain) job (fun _ => Phase me True False none) fun _ => Phase me True False none

theorem wakes_of_minds (minds : Minds me True held domain job) : Wakes me held domain job :=
  minds.weaken (fun _ h => h) (fun _ _ h => Phase.loosen h) fun _ _ h => Phase.loosen h

/-- What the task knows is kept on the way. -/
theorem minds_bind {job : Job β} {next : β → Job α} (first : Minds me True held domain job)
    (second : ∀ result, Spec (waking me) (Phase me True held domain) (next result) Q fun _ => Phase me True False none) :
    Spec (waking me) (Phase me True held domain) (job >>= next) Q fun _ => Phase me True False none :=
  Spec.bind (M := fun _ => Phase me True held domain)
    (first.weaken (fun _ h => h) (fun _ _ h => h) fun _ _ h => Phase.loosen h) second

/-- Nothing is known any more that matters. -/
theorem wakes_loose {job : Job β} {next : β → Job α} (first : Wakes me held domain job)
    (second : ∀ result, Minds me True False none (next result)) : Wakes me held domain (job >>= next) :=
  Spec.bind (M := fun _ => Phase me True False none) first second

theorem Op.phase_call {made : Call β} {s : Wakeful} {held' : Prop} {answer : Answer} (holds : Phase me True held domain s)
    (asleep : (Op.call made).suspends = true → s.daemon.domain = .sleeping)
    (stock : (Op.call made).handsBack = true → s.daemon.domain = .restoringSystem)
    (awake : s.daemon.domain.managed = true → made.wakelock answer s.held = true)
    (known : held' → made.wakelock answer s.held = true) :
    (Op.call made).Heeds me answer s ∧ Phase me True held' domain ((waking me).exec (.call made) answer s).2 := by
  obtain ⟨-, within⟩ := holds
  obtain ⟨mine, -, there⟩ := within trivial
  have frame := (Op.call made).frame me answer s.daemon
  have kind : (Op.call made).kind ≠ .domain ∧ (Op.call made).kind ≠ .grant ∧ (Op.call made).kind ≠ .ready ∧
      (Op.call made).kind ≠ .lock ∧ (Op.call made).kind ≠ .hold := by
    rcases made.kind_cases with same | same | same <;> simp [Op.kind, same]
  obtain ⟨notDomain, notGrant, notReady, notLock, notHold⟩ := kind
  have same : ((Op.call made).exec me answer s.daemon).2.domain = s.daemon.domain :=
    congrArg ManagerState.domain (frame.state notDomain notGrant notReady)
  have kept : ((waking me).exec (.call made) answer s).2.awake := by
    intro managed
    refine awake ?_
    rw [← same]
    exact managed
  have parked : (Op.call made).errand ≠ .parked := by
    cases made <;> first
      | cases ‹ServiceUnit› <;> simp [Op.errand, Call.errand, ServiceUnit.errand, ServiceUnit.scheduling]
      | simp [Op.errand, Call.errand]
  refine ⟨⟨fun _ => mine, asleep, stock, fun _ => kept, parked⟩, kept, fun _ => ⟨?_, known, fun found domain => ?_⟩⟩
  · exact (congrFun (frame.locks notLock notHold) .transition).trans mine
  · obtain ⟨unmanaged, before⟩ := there found domain
    exact ⟨unmanaged, same.trans before⟩

/-- The wake lock is taken. -/
theorem taken_spec {made : Call Unit} (taking : made = .acquireWakelock ∨ made = .enterManaged) :
    Spec (waking me) (Phase me True held domain) (call made) (fun _ => Phase me True True domain)
      fun _ => Phase me True False none := by
  refine Programs.Job.spec_try ?_
  intro s holds _ answer _
  have keeps : s.daemon.domain.managed = true → made.wakelock answer s.held = true := by
    intro managed
    rcases taking with rfl | rfl <;> simp [Call.wakelock, holds.1 managed]
  have goes : ∀ held' : Prop, (held' → made.wakelock answer s.held = true) → (Op.call made).Heeds me answer s ∧
      Phase me True held' domain ((waking me).exec (.call made) answer s).2 := by
    intro held' known
    refine Op.phase_call holds (fun suspends => ?_) (fun restores => ?_) keeps known
    · rcases taking with rfl | rfl <;> cases suspends
    · rcases taking with rfl | rfl <;> cases restores
  refine ⟨(goes False fun none => none.elim).1, ?_⟩
  have reply : ((waking me).exec (.call made) answer s).1 = if answer.ok = true then .ok () else .error answer.error := by
    rcases taking with rfl | rfl <;> cases ok : answer.ok <;> simp [waking, Op.exec, Call.exec, Call.refused, ok, Call.reply]
  rw [reply]
  by_cases ok : answer.ok = true
  · rw [if_pos ok]
    refine (goes True fun _ => ?_).2
    rcases taking with rfl | rfl <;> simp [Call.wakelock, ok]
  · rw [if_neg ok]
    exact Phase.loosen (goes False fun none => none.elim).2

/-- Whether the wake lock is taken or not, it is not let go. -/
theorem acquireWakelock_minds : Minds me True held domain (tried .acquireWakelock) := by
  refine Programs.Job.spec_op ?_
  intro s holds _ answer _
  obtain ⟨awake, within⟩ := id holds
  refine Op.phase_call holds (fun suspends => (by cases suspends)) (fun restores => (by cases restores))
    (fun managed => ?_) fun known => ?_
  · simp [Call.wakelock, awake managed]
  · simp [Call.wakelock, (within trivial).2.1 known]

/-- The device sleeps, and the wake lock may be gone afterwards. -/
theorem suspend_spec :
    Spec (waking me) (Phase me True held (some .sleeping)) (tried .suspend) (fun _ => Phase me True False (some .sleeping)) F := by
  refine Programs.Job.spec_op ?_
  intro s holds _ answer _
  obtain ⟨-, sleeping⟩ := (holds.2 trivial).2.2 .sleeping rfl
  refine Op.phase_call holds (fun _ => sleeping) (fun restores => (by cases restores)) (fun managed => ?_) fun none => none.elim
  rw [sleeping] at managed
  cases managed

/-- The stock shell takes over, and the wake lock may be gone afterwards. -/
theorem restored_wakes : Wakes me held (some .restoringSystem) (call .restoreSystem) := by
  refine Programs.Job.spec_try ?_
  intro s holds _ answer _
  obtain ⟨-, restoring⟩ := (holds.2 trivial).2.2 .restoringSystem rfl
  have goes : (Op.call .restoreSystem).Heeds me answer s ∧
      Phase me True False (some .restoringSystem) ((waking me).exec (.call .restoreSystem) answer s).2 := by
    refine Op.phase_call holds (fun suspends => (by cases suspends)) (fun _ => restoring) (fun managed => ?_) fun none => none.elim
    rw [restoring] at managed
    cases managed
  refine ⟨goes.1, ?_⟩
  split <;> exact Phase.loosen goes.2

/-- With the wake lock held, any transition will do. -/
theorem apply_wakes {transition : Transition} : Wakes me True domain (attempt (.apply transition)) := by
  refine Programs.Job.spec_try ?_
  intro s holds _ answer _
  obtain ⟨-, within⟩ := holds
  obtain ⟨mine, held, -⟩ := within trivial
  have awake : ((waking me).exec (.apply transition) answer s).2.awake := fun _ => held trivial
  have heeds : (Op.apply transition).Heeds me answer s :=
    ⟨fun _ => mine, fun suspends => (by cases suspends), fun restores => (by cases restores), fun _ => awake,
      by cases transition <;> simp [Op.errand, Transition.errand]⟩
  have after : Phase me True False none ((waking me).exec (.apply transition) answer s).2 := by
    refine ⟨awake, fun _ => ⟨?_, fun none => none.elim, fun known same => (by cases same)⟩⟩
    obtain ⟨state, same⟩ := s.daemon.apply_eq transition
    show (s.daemon.apply transition).2.locks .transition = some me
    rw [same]
    exact mine
  refine ⟨heeds, ?_⟩
  split <;> exact after

/-- In the managed domain the wake lock is known to be held. -/
theorem getDomain_spec :
    Spec (waking me) (Phase me True held none) getDomain
      (fun found => Phase me True (found.managed = true ∨ held) (if found.managed = true then none else some found)) F := by
  refine Programs.Job.spec_op ?_
  intro s holds _ answer _
  have calm : (Op.read SharedDaemon.domain).errand ≠ .wakeful ∧ (Op.read SharedDaemon.domain).errand ≠ .parked := by
    simp [Op.errand]
  refine ⟨Op.heeds_calm calm answer s, holds.1, fun _ => ?_⟩
  obtain ⟨mine, awaken, -⟩ := holds.2 trivial
  refine ⟨mine, fun known => known.elim (fun managed => holds.1 managed) awaken, fun known same => ?_⟩
  have found : (if s.daemon.domain.managed = true then none else some s.daemon.domain) = some known := same
  split at found
  next => cases found
  next unmanaged =>
    cases found
    exact ⟨by simpa using unmanaged, rfl⟩

/-- The domain is left for the stock system. -/
theorem beginRestore_spec :
    Spec (waking me) (Phase me True held domain) (perform .beginRestore) (fun _ => Phase me True held (some .restoringSystem)) F := by
  refine Programs.Job.spec_op ?_
  intro s holds _ answer _
  obtain ⟨mine, awaken, -⟩ := holds.2 trivial
  refine ⟨Op.heeds_calm (by simp [Op.errand]) answer s, fun managed => (by cases managed), fun _ => ?_⟩
  refine ⟨mine, awaken, fun known same => ?_⟩
  cases same
  exact ⟨rfl, rfl⟩

/-- The domain falls asleep, or is left. -/
theorem applySleep_spec :
    Spec (waking me) (Phase me True held none) (perform (.apply .sleep))
      (fun applied => Phase me True held (if applied.isOk then some .sleeping else none)) F := by
  refine Programs.Job.spec_op ?_
  intro s holds _ answer _
  have calm : (Op.apply .sleep).errand ≠ .wakeful ∧ (Op.apply .sleep).errand ≠ .parked := by simp [Op.errand, Transition.errand]
  have goes := (Op.apply .sleep).phase holds calm (.inl (by simp [Op.errand, Transition.errand])) (.inl rfl) answer
  obtain ⟨mine, awaken, -⟩ := goes.2.2 trivial
  refine ⟨goes.1, goes.2.1, fun _ => ⟨mine, awaken, fun known same => ?_⟩⟩
  have found : (if (s.daemon.apply .sleep).1.isOk = true then some DomainState.sleeping else none) = some known := same
  split at found
  next applied =>
    cases found
    exact ⟨rfl, SharedDaemon.apply_sleep applied⟩
  next => cases found

/-! ## The jobs of the wake lock -/

/-- Under the transition lock. -/
theorem locked_minds {body : Job α} (wakes : Wakes me False none body) : Minds me False False none (locked body) := by
  unfold locked
  refine Spec.bind (M := fun _ => Phase me True False none) (Programs.Job.spec_op ?_) fun _ => ?_
  · intro s holds _ answer _
    have goes := (Op.acquire .transition).phase holds (by simp [Op.errand, Lock.errand]) (.inr not_false) (.inl rfl) answer
    refine ⟨goes.1, goes.2.1, fun _ => ⟨?_, fun none => none.elim, fun known same => (by cases same)⟩⟩
    simp [waking, Op.exec]
  · refine Spec.bind (M := fun _ => Phase me False False none) ?_ fun result => ?_
    · refine Spec.weaken (Spec.outcome (G := fun _ => Phase me False False none) wakes) (fun _ h => h) ?_ fun _ _ h => h
      intro result s after
      cases result <;> exact Phase.forget after
    · refine keeps_bind (Programs.Job.spec_op ?_) fun _ => keeps_ofResult result
      intro s holds _ answer _
      exact (Op.release .transition (!result.isOk)).phase holds (by simp [Op.errand, Lock.errand]) (.inr not_false) (.inl rfl) answer

theorem restoreSystem_minds : Minds me False False none restoreSystem := by
  unfold restoreSystem
  refine locked_minds (minds_bind (minds_inside (by grind)) fun domain => ?_)
  split
  · exact wakes_of_minds (keeps_pure ())
  refine Spec.bind beginRestore_spec fun _ => ?_
  iterate 13 refine minds_bind (minds_still (by grind) (by grind)) fun _ => ?_
  exact wakes_loose restored_wakes fun _ => minds_inside (by grind)

theorem enterManager_minds : Minds me False False none enterManager := by
  unfold enterManager
  refine locked_minds (minds_bind (minds_inside (by grind)) fun _ => minds_bind (minds_inside (by grind)) fun _ => ?_)
  refine Spec.bind (taken_spec (.inr rfl)) fun _ => ?_
  iterate 6 refine minds_bind (minds_inside (by grind)) fun _ => ?_
  exact wakes_loose apply_wakes fun _ => minds_inside (by grind)

theorem abortWake_spec {sleepEpoch : Nat} {cause : String} :
    Spec (waking me) (Phase me True held domain) (abortWake sleepEpoch cause : Job α) Q fun _ => Phase me True False none := by
  unfold abortWake
  refine minds_bind (minds_still (by grind) (by grind)) fun aborted => ?_
  cases aborted <;> exact Programs.Job.spec_throw fun _ holds => Phase.loosen holds

/-- A sleep is rolled back with the wake lock held. -/
theorem rollbackSleep_spec {sleepEpoch : Nat} {cause : String} :
    Spec (waking me) (Phase me True True domain) (rollbackSleep sleepEpoch cause : Job α) Q fun _ => Phase me True False none := by
  unfold rollbackSleep
  refine minds_bind (minds_still (by grind) (by grind)) fun _ => minds_bind (minds_still (by grind) (by grind)) fun _ => ?_
  refine minds_bind (minds_still (by grind) (by grind)) fun guard => ?_
  cases guard with
  | error error => exact abortWake_spec
  | ok _ =>
    refine minds_bind (minds_still (by grind) (by grind)) fun unlocked => ?_
    cases unlocked with
    | error error => exact abortWake_spec
    | ok _ =>
      refine Spec.bind apply_wakes fun _ => minds_bind (minds_inside (by grind)) fun _ => ?_
      exact Programs.Job.spec_throw fun _ holds => holds

theorem enterSleeping_spec :
    Spec (waking me) (Phase me True held none) enterSleeping (fun _ => Phase me True held (some .sleeping))
      fun _ => Phase me True False none := by
  unfold enterSleeping
  refine Spec.bind applySleep_spec fun applied => ?_
  cases applied with
  | ok _ => exact Programs.Job.spec_pure fun _ holds => holds
  | error error =>
    refine minds_bind (minds_inside (by grind)) fun reset => ?_
    cases reset <;> exact Programs.Job.spec_throw fun _ holds => Phase.loosen holds

/-- The device is about to sleep, with the wake lock held. -/
theorem prepareSleepLock_spec {lockSurfaceSequence : Nat} :
    Spec (waking me) (Phase me True False none) (prepareSleepLock lockSurfaceSequence queued)
      (fun _ => Phase me True True (some .sleeping)) fun _ => Phase me True False none := by
  unfold prepareSleepLock
  refine Spec.bind getDomain_spec fun found => ?_
  refine Spec.bind (M := fun _ => Phase me True True none)
    (Programs.Job.spec_require (fun same s holds => ?_) fun _ _ => Phase.loosen) fun _ => ?_
  · have manager : found = .manager := by simpa using same
    subst manager
    obtain ⟨mine, awaken, -⟩ := holds.2 trivial
    exact ⟨holds.1, fun _ => ⟨mine, fun _ => awaken (.inl rfl), fun known same => (by cases same)⟩⟩
  iterate 8 refine minds_bind (minds_inside (by grind)) fun _ => ?_
  refine Spec.bind enterSleeping_spec fun _ => ?_
  iterate 3 refine minds_bind (minds_still (by grind) (by grind)) fun _ => ?_
  refine Spec.bind (M := fun _ => Phase me True True (some .sleeping))
    (Programs.Job.spec_handle (fun _ _ _ holds => holds) fun error _ => rollbackSleep_spec) fun _ => ?_
  refine minds_bind (minds_still (by grind) (by grind)) fun marked => ?_
  refine Spec.bind (M := fun _ => Phase me True True (some .sleeping))
    (Programs.Job.spec_handle (fun _ _ _ holds => holds) fun error _ => rollbackSleep_spec) fun _ => ?_
  exact Programs.Job.spec_pure fun _ holds => holds

/-- After a suspend nothing is done with the wake lock but that it is taken again. -/
theorem suspended_wakes {next : Except String Unit → Except String Unit → Job Unit}
    (calm : ∀ suspended wakelock, Bare insideErrands (next suspended wakelock)) :
    Wakes me held (some .sleeping) (do
      let suspended ← tried .suspend
      let wakelock ← tried .acquireWakelock
      next suspended wakelock) := by
  refine Spec.bind suspend_spec fun suspended => minds_bind acquireWakelock_minds fun wakelock => ?_
  exact (wakes_of_minds (minds_inside (calm suspended wakelock))).before fun _ => Phase.loosen

theorem sleep_minds {lockSurfaceSequence : Nat} : Minds me False False none (sleep lockSurfaceSequence queued) := by
  unfold sleep
  refine locked_minds (Spec.bind prepareSleepLock_spec fun (sleepEpoch, interactionEpoch) => ?_)
  refine minds_bind (minds_still (by grind) (by grind)) fun guard => ?_
  refine Spec.bind (M := fun _ => Phase me True True (some .sleeping))
    (Programs.Job.spec_handle (fun _ _ _ holds => holds) fun error _ => rollbackSleep_spec) fun _ => ?_
  refine minds_bind (minds_still (by grind) (by grind)) fun epoch => ?_
  refine Spec.bind (M := fun _ => Phase me True True (some .sleeping))
    (Programs.Job.spec_doIf (fun _ => rollbackSleep_spec) fun _ _ holds => holds) fun _ => ?_
  refine suspended_wakes fun suspended wakelock => ?_
  cases suspended with
  | error error =>
    repeat refine only_bind (by grind) fun _ => ?_
    grind
  | ok _ =>
    repeat refine only_bind (by grind) fun _ => ?_
    grind

theorem resuspendLocked_minds {sleepEpoch sleepRevision interactionEpoch : Nat} :
    Minds me False False none (resuspendLocked sleepEpoch sleepRevision interactionEpoch) := by
  unfold resuspendLocked
  refine locked_minds (Spec.bind getDomain_spec fun found => ?_)
  by_cases sleeping : found = .sleeping
  · subst sleeping
    rw [if_neg (by simp : ¬(DomainState.sleeping ≠ DomainState.sleeping))]
    show Spec (waking me) (Phase me True _ (some .sleeping)) _ _ _
    refine minds_bind (minds_still (by grind) (by grind)) fun current => ?_
    refine minds_bind (minds_still (by grind) (by grind)) fun snapshot => ?_
    split
    · exact Programs.Job.spec_pure fun _ => Phase.loosen
    refine minds_bind (minds_still (by grind) (by grind)) fun _ => minds_bind (minds_still (by grind) (by grind)) fun epoch => ?_
    split
    · exact (wakes_of_minds (minds_inside (by grind))).before fun _ => Phase.loosen
    refine suspended_wakes fun suspended wakelock => ?_
    cases suspended with
    | error error => grind
    | ok _ =>
      refine only_bind (by grind) fun guard => ?_
      cases guard <;> cases wakelock <;> grind
  · rw [if_pos (sleeping : found ≠ .sleeping)]
    exact Programs.Job.spec_pure fun _ => Phase.loosen

theorem wake_minds {managerSurfaceSequence : Nat} : Minds me False False none (wake managerSurfaceSequence queued) := by
  unfold wake
  refine locked_minds (minds_bind (minds_inside (by grind)) fun domain => ?_)
  split
  · exact wakes_of_minds (keeps_pure ())
  iterate 8 refine minds_bind (minds_inside (by grind)) fun _ => ?_
  refine Spec.bind (taken_spec (.inl rfl)) fun _ => minds_bind (minds_inside (by grind)) fun _ => ?_
  refine minds_bind (minds_inside (by grind)) fun guard => ?_
  refine minds_bind (minds_inside (by grind)) fun _ => ?_
  refine minds_bind (minds_inside (by grind)) fun cancelled => minds_bind (minds_inside (by grind)) fun _ => ?_
  exact wakes_loose apply_wakes fun _ => minds_inside (by grind)

/-! ## The tasks -/

theorem ensureManagerOrRestore_minds : Minds me False False none ensureManagerOrRestore := by
  unfold ensureManagerOrRestore
  refine keeps_bind (minds_calm (by grind)) fun ensured => ?_
  cases ensured with
  | ok _ => exact keeps_pure ()
  | error _ => exact restoreSystem_minds

theorem reloadManifests_minds : Minds me False False none reloadManifests := by
  unfold reloadManifests
  iterate 3 refine keeps_bind (minds_calm (by grind)) fun _ => ?_
  refine keeps_bind (minds_calm (by grind)) fun domain => keeps_ite (fun _ => ?_) fun _ => keeps_pure ()
  refine keeps_bind (minds_calm (by grind)) fun restarted => ?_
  cases restarted with
  | ok _ => exact keeps_pure ()
  | error _ => exact restoreSystem_minds

theorem triplePower_minds : Minds me False False none triplePower := by
  unfold triplePower
  refine keeps_bind (minds_calm (by grind)) fun domain => ?_
  cases domain with
  | system => exact enterManager_minds
  | foreground app => exact keeps_bind (minds_calm (by grind)) fun _ => restoreSystem_minds
  | manager => exact restoreSystem_minds
  | sleeping => exact restoreSystem_minds
  | _ => exact keeps_pure ()

theorem openManager_minds : Minds me False False none openManager := by
  unfold openManager
  refine keeps_bind (minds_calm (by grind)) fun domain => ?_
  cases domain with
  | system => exact enterManager_minds
  | _ => exact minds_calm (by grind)

theorem handleDisplayHostExited_minds {stateSequence sleepRevision : Nat} :
    Minds me False False none (handleDisplayHostExited stateSequence sleepRevision) := by
  unfold handleDisplayHostExited
  refine keeps_bind (minds_calm (by grind)) fun _ => keeps_bind (minds_calm (by grind)) fun _ => ?_
  exact keeps_ite (fun _ => restoreSystem_minds) fun _ => keeps_pure ()

theorem recoverAfterFailure_minds {answered : Except String Unit} : Minds me False False none (recoverAfterFailure answered) := by
  cases answered with
  | ok _ => exact keeps_pure ()
  | error error =>
    unfold recoverAfterFailure
    refine keeps_bind (minds_calm (by grind)) fun domain => ?_
    cases domain with
    | system => exact keeps_pure ()
    | foreground app => exact keeps_pure ()
    | manager => exact ensureManagerOrRestore_minds
    | sleeping =>
      refine keeps_bind (minds_calm (by grind)) fun healthy => keeps_ite (fun _ => keeps_pure ()) fun _ => restoreSystem_minds
    | _ => exact restoreSystem_minds

theorem handleEvent_minds : Minds me False False none (handleEvent queued) := by
  unfold handleEvent
  cases queued.event with
  | triplePower => exact triplePower_minds
  | longPower => exact restoreSystem_minds
  | returnSystem => exact restoreSystem_minds
  | openManager => exact openManager_minds
  | sleep lockSurfaceSequence => exact sleep_minds
  | wake managerSurfaceSequence => exact wake_minds
  | resuspend sleepEpoch sleepRevision interactionEpoch => exact resuspendLocked_minds
  | displayHostExited stateSequence sleepRevision => exact handleDisplayHostExited_minds
  | reloadManifests => exact reloadManifests_minds
  | runtimeLaunch authority app openPath =>
    exact keeps_bind (minds_calm (by grind)) fun _ => minds_calm (by grind)
  | _ => exact minds_calm (by grind)

theorem answerOnly_minds {job : Job Bool} (minds : Minds me False False none job) :
    (answerOnly job).Spec (waking me) (Phase me False False none) fun _ => Phase me False False none :=
  Program.Spec.bind minds.run fun _ => Program.spec_pure fun _ holds => holds

/-- Every task minds the wake lock. -/
theorem Role.minds {role : Role} :
    role.program.Spec (waking me) (Phase me False False none) fun _ => Phase me False False none := by
  cases role with
  | serving queued =>
    refine Program.Spec.bind (M := fun _ => Phase me False False none) ?_ fun answered => ?_
    · refine Program.Spec.bind (M := fun _ => Phase me False False none) (Program.spec_op ?_) fun cancelled => ?_
      · intro s holds _ answer _
        exact Op.phase holds (by simp [Op.errand]) (.inr not_false) (.inl rfl) answer
      · cases cancelled with
        | true => exact Program.spec_pure fun _ holds => holds
        | false => exact handleEvent_minds.run
    · exact Program.Spec.bind recoverAfterFailure_minds.run fun _ => Program.spec_pure fun _ holds => holds
  | package request =>
    refine answerOnly_minds (keeps_bind ?_ fun _ => keeps_pure _)
    unfold packageReply holding
    refine keeps_bind (minds_calm (by grind)) fun _ => keeps_bind (keeps_outcome ?_) fun _ => ?_
    · exact keeps_bind (minds_calm (by grind)) fun _ => reloadManifests_minds
    · exact keeps_bind (minds_calm (by grind)) fun _ => keeps_ofResult _
  | inputMode token mode => exact answerOnly_minds (minds_calm (by grind))
  | runnerExit app generation exitCode crashed => exact answerOnly_minds (minds_calm (by grind))
  | handoff authority app openPath => exact answerOnly_minds (minds_calm (by grind))

end

/-! ## The machine and its wake lock -/

/-- The locks and the wake lock, of all tasks together. -/
def wakeDiscipline : Discipline Nat Role Op Answer Wakeful Outcome where
  meaning := waking
  contract i _ := ((lockContract i).along Wakeful.daemon).and (wakeContract i)
  post i _ _ s := Holding i [] s.daemon ∧ Phase i False False none s
  apart := by
    intro i j _ _ different β op answer s able _ ⟨orderly, heeds⟩
    have undisturbed : Undisturbed j s.daemon (op.exec i answer s.daemon).2 := op.undisturbed different able orderly
    refine ⟨undisturbed, undisturbed.mine .transition, undisturbed.moves, fun mine => ?_, heeds.awake⟩
    refine Op.wakelock_calm (fun wakeful => ?_) answer s.held
    exact different (Option.some.inj ((heeds.locked wakeful).symm.trans mine))

/-- A task that has no lock may begin. -/
theorem Role.awakens {me : Nat} {role : Role} {s : Wakeful} (wellFormed : role.wellFormed me)
    (free : ∀ lock, s.daemon.locks lock ≠ some me) (awake : s.awake) :
    role.program.Meets (waking me) (wakeDiscipline.contract me role) (wakeDiscipline.post me role) s := by
  have locks := role.orderly wellFormed s.daemon fun lock => by simp [free lock]
  have lifted : role.program.Meets (waking me) ((lockContract me).along Wakeful.daemon) (fun _ t => Holding me [] t.daemon) s :=
    Program.Meets.along (fun _ _ => rfl) (fun _ _ _ => rfl) locks
  exact lifted.and (role.minds s ⟨awake, fun none => none.elim⟩)

structure Device where
  machine : Machine
  held : Bool

inductive Turn where
  | step (step : Step)
  /-- A client's task is dropped while it restores the stock system, once the wake lock is let go. -/
  | cutOff (task : Nat)

namespace Device

def wakeful (d : Device) : Wakeful := ⟨d.machine.shared, d.held⟩

/-- What becomes of the wake lock when the task goes on. -/
def heldAfter (task : Nat) (answer : Answer) (d : Device) : Bool :=
  match d.machine.tasks task with
  | some (_, .perform op _) => if !d.machine.failed && op.ready task d.machine.shared then op.wakelock answer d.held else d.held
  | _ => d.held

/-- The task is about to restore the stock system. -/
def restoring (task : Nat) (d : Device) : Bool :=
  match d.machine.tasks task with
  | some (_, .perform op _) => op.handsBack && task ≠ loopTask && !d.machine.failed
  | _ => false

def next (d : Device) : Turn → Device
  | .step (.perform task answer) => ⟨d.machine.next (.perform task answer), d.heldAfter task answer⟩
  | .step step => { d with machine := d.machine.next step }
  | .cutOff task => if d.restoring task then ⟨d.machine.next (.abandon task), false⟩ else d

def boot (manifests : List AppManifest) (sessions : Table AppSession) (held : Bool) : Device :=
  ⟨.boot manifests sessions, held⟩

/-- The turn lets the wake lock go: for a suspend of the device that sleeps, or for the stock
    system, and the task holds the transition lock. -/
def letsGo (d : Device) (turn : Turn) : Prop :=
  ∃ task role, ∃ β, ∃ (op : Op β) (next : β → Program Op Outcome),
    ((∃ answer, turn = .step (.perform task answer)) ∨ turn = .cutOff task) ∧
    d.machine.tasks task = some (role, .perform op next) ∧ d.machine.shared.locks .transition = some task ∧
    (op.suspends = true ∧ d.machine.shared.domain = .sleeping ∨ op.handsBack = true ∧ d.machine.shared.domain = .restoringSystem)

end Device

/-- What holds of the device all along. -/
structure Device.Vigilant (d : Device) : Prop where
  kept : wakeDiscipline.Kept d.machine.tasks d.wakeful
  idle : ∀ task, d.machine.tasks task = none → ∀ lock, d.machine.shared.locks lock ≠ some task
  awake : d.wakeful.awake
  possible : d.machine.shared.Possible

section
variable {m : Machine} {task : Nat} {answer : Answer}

theorem Machine.perform_idle
    (idle : ∀ role β (op : Op β) next, m.tasks task = some (role, .perform op next) → op.ready task m.shared = false) :
    m.perform task answer = m :=
  congrArg Lookout.machine (Lookout.perform_idle (l := ⟨m, {}⟩) idle)

theorem Machine.perform_ready {role : Role} {β : Type} {op : Op β} {next : β → Program Op Outcome}
    (there : m.tasks task = some (role, .perform op next)) (able : op.ready task m.shared = true) :
    m.perform task answer =
      { m with
        shared := (op.exec task answer m.shared).2
        tasks := Function.update m.tasks task (some (role, next (op.exec task answer m.shared).1)) } :=
  congrArg Lookout.machine (Lookout.perform_ready (l := ⟨m, {}⟩) there able)

end

namespace Device
variable {d : Device}

/-- What the task answers for with the operation. -/
theorem Vigilant.answers {task : Nat} {role : Role} {β : Type} {op : Op β} {next : β → Program Op Outcome}
    (vigilant : d.Vigilant) (there : d.machine.tasks task = some (role, .perform op next))
    (able : op.ready task d.machine.shared = true) (answer : Answer) :
    op.orderly task d.machine.shared ∧ op.Heeds task answer d.wakeful :=
  (vigilant.kept task role _ there d.wakeful ((wakeDiscipline.contract task role).refl _) able answer ⟨trivial, trivial⟩).1

theorem Vigilant.perform {task : Nat} {answer : Answer} (vigilant : d.Vigilant) (alive : d.machine.failed = false) :
    (⟨d.machine.perform task answer, d.heldAfter task answer⟩ : Device).Vigilant := by
  by_cases goes : ∃ role, ∃ β, ∃ op : Op β, ∃ next, d.machine.tasks task = some (role, .perform op next) ∧
      op.ready task d.machine.shared = true
  · obtain ⟨role, β, op, next, there, able⟩ := goes
    obtain ⟨orderly, heeds⟩ := vigilant.answers there able answer
    have advanced := vigilant.kept.advance there fun operation following same =>
      (⟨trivial, trivial⟩ : (wakeDiscipline.contract task role).told operation answer d.wakeful)
    have held : d.heldAfter task answer = op.wakelock answer d.held := by simp [heldAfter, there, alive, able]
    have able' : (wakeDiscipline.meaning task).ready op d.wakeful = true := able
    rw [held, Machine.perform_ready there able]
    simp only [Programs.Program.advance, able', if_true] at advanced
    refine ⟨advanced, fun other gone lock taken => ?_, heeds.awake vigilant.awake, op.exec_possible heeds.parked vigilant.possible⟩
    have apart : other ≠ task := by
      rintro rfl
      simp at gone
    simp only [Function.update_of_ne apart] at gone
    exact vigilant.idle other gone lock ((op.exec_mine (Ne.symm apart) able orderly lock).mp taken)
  · have same : d.machine.perform task answer = d.machine := Machine.perform_idle fun role β op next there => by
      by_contra able
      exact goes ⟨role, β, op, next, there, by simpa using able⟩
    have held : d.heldAfter task answer = d.held := by
      unfold heldAfter
      split
      next role β op next there =>
        refine if_neg fun able => goes ⟨role, β, op, next, there, ?_⟩
        exact (Bool.and_eq_true_iff.mp able).2
      next => rfl
    rw [same, held]
    exact vigilant

/-- What happens beside the tasks. -/
theorem Vigilant.world {machine : Machine} (vigilant : d.Vigilant) (tasks : machine.tasks = d.machine.tasks)
    (beside : d.machine.shared.Beside machine.shared) : ({ d with machine } : Device).Vigilant := by
  have domain : machine.shared.domain = d.machine.shared.domain := congrArg ManagerState.domain beside.state
  have awake : d.wakeful.awake → ({ d with machine } : Device).wakeful.awake := by
    intro awake managed
    refine awake ?_
    show d.machine.shared.domain.managed = true
    rw [← domain]
    exact managed
  refine ⟨?_, fun task gone => ?_, awake vigilant.awake, beside.possible vigilant.possible⟩
  · show wakeDiscipline.Kept machine.tasks ⟨machine.shared, d.held⟩
    rw [tasks]
    refine vigilant.kept.disturb fun me role => ?_
    exact ⟨beside.undisturbed me, (beside.undisturbed me).mine .transition, (beside.undisturbed me).moves, fun _ => rfl, awake⟩
  · show ∀ lock, machine.shared.locks lock ≠ some task
    rw [beside.locks]
    exact vigilant.idle task (tasks ▸ gone)

/-- A task begins. -/
theorem Vigilant.put {task : Nat} {role : Role} (vigilant : d.Vigilant) (gone : d.machine.tasks task = none)
    (wellFormed : role.wellFormed task) :
    ({ d with machine := d.machine.put task (some (role, role.program)) } : Device).Vigilant := by
  have begins := role.awakens (s := d.wakeful) wellFormed (vigilant.idle task gone) vigilant.awake
  refine ⟨vigilant.kept.put begins, fun other idle => ?_, vigilant.awake, vigilant.possible⟩
  have apart : other ≠ task := by
    rintro rfl
    simp [Machine.put] at idle
  simp only [Machine.put, Function.update_of_ne apart] at idle
  exact vigilant.idle other idle

/-- A task is over, and the wake lock may be gone with it while the domain is not managed. -/
theorem Vigilant.over {task : Nat} {machine : Machine} {held : Bool} (vigilant : d.Vigilant)
    (tasks : machine.tasks = Function.update d.machine.tasks task none) (state : machine.shared = d.machine.shared.dropLocks task)
    (same : held = d.held ∨ d.machine.shared.locks .transition = some task ∧ d.machine.shared.domain.managed = false) :
    (⟨machine, held⟩ : Device).Vigilant := by
  have awake : d.wakeful.awake → (⟨machine, held⟩ : Device).wakeful.awake := by
    intro awake managed
    have before : d.machine.shared.domain.managed = true := by
      have after : machine.shared.domain.managed = true := managed
      rwa [state] at after
    rcases same with same | ⟨-, unmanaged⟩
    · exact same.trans (awake before)
    · rw [unmanaged] at before
      cases before
  refine ⟨?_, fun other gone lock taken => ?_, awake vigilant.awake, ?_⟩
  · intro other role program there
    have there' : machine.tasks other = some (role, program) := there
    rw [tasks] at there'
    have apart : other ≠ task := by
      rintro rfl
      simp at there'
    rw [Function.update_of_ne apart] at there'
    have dropped : Undisturbed other d.machine.shared machine.shared := by
      rw [state]
      exact .dropped apart
    refine (vigilant.kept other role program there').relied ⟨dropped, dropped.mine .transition, dropped.moves, fun mine => ?_, awake⟩
    rcases same with same | ⟨other', -⟩
    · exact same
    · exact absurd (Option.some.inj (mine.symm.trans other')) apart
  · have mine : machine.shared.locks lock = some other := taken
    rw [state] at mine
    by_cases apart : other = task
    · subst apart
      simp only [SharedDaemon.dropLocks] at mine
      split at mine
      next => cases mine
      next free => exact free mine
    · have before : machine.tasks other = none := gone
      rw [tasks, Function.update_of_ne apart] at before
      exact vigilant.idle other before lock (((Undisturbed.dropped apart).mine lock).mp mine)
  · show machine.shared.Possible
    rw [state]
    exact vigilant.possible.same rfl rfl rfl

theorem Vigilant.finish {task : Nat} (vigilant : d.Vigilant) :
    ({ d with machine := d.machine.finish task } : Device).Vigilant := by
  unfold Machine.finish
  cases there : d.machine.tasks task with
  | none => exact vigilant
  | some doing =>
    obtain ⟨role, program⟩ := doing
    cases program with
    | perform op next => exact vigilant
    | done outcome =>
      have ended := (vigilant.kept task role _ there d.wakeful ((wakeDiscipline.contract task role).refl _)).1
      have free : ∀ lock, d.machine.shared.locks lock ≠ some task := fun lock held => List.not_mem_nil ((ended lock).mp held)
      exact vigilant.over rfl (Lookout.dropLocks_free free).symm (.inl rfl)

theorem Vigilant.abandon {task : Nat} (vigilant : d.Vigilant) :
    ({ d with machine := d.machine.abandon task } : Device).Vigilant := by
  unfold Machine.abandon
  split
  · exact vigilant.over rfl rfl (.inl rfl)
  · exact vigilant

/-- A restore of the stock system is dropped where it stands. -/
theorem Vigilant.cutOff {task : Nat} (vigilant : d.Vigilant) (restoring : d.restoring task = true) :
    (⟨d.machine.next (.abandon task), false⟩ : Device).Vigilant ∧ d.letsGo (.cutOff task) := by
  unfold Device.restoring at restoring
  split at restoring
  next role β op next there =>
    obtain ⟨⟨restores, client⟩, alive⟩ : (op.handsBack = true ∧ task ≠ loopTask) ∧ d.machine.failed = false := by
      simpa [Bool.and_eq_true] using restoring
    have called : op.errand = .wakeful ∧ op.ready task d.machine.shared = true := by
      cases op with
      | call made => cases made <;> first | exact ⟨rfl, rfl⟩ | cases restores
      | _ => cases restores
    have heeds := (vigilant.answers there called.2 {}).2
    have mine := heeds.locked called.1
    have stock := heeds.stock restores
    refine ⟨?_, task, role, β, op, next, .inr rfl, there, mine, .inr ⟨restores, stock⟩⟩
    have goes : d.machine.next (.abandon task) = { d.machine with shared := d.machine.shared.dropLocks task }.put task none := by
      simp [Machine.next, Machine.abandon, alive, client, there]
    rw [goes]
    refine vigilant.over rfl rfl (.inr ⟨mine, ?_⟩)
    have domain : d.machine.shared.domain = .restoringSystem := stock
    rw [domain]
    rfl
  next => cases restoring

theorem Vigilant.next {turn : Turn} (vigilant : d.Vigilant) : (d.next turn).Vigilant := by
  cases turn with
  | cutOff task =>
    simp only [Device.next]
    split
    next restoring => exact (vigilant.cutOff restoring).1
    next => exact vigilant
  | step step =>
    by_cases beside : step.beside = true
    · have goes : d.next (.step step) = { d with machine := d.machine.next step } := by
        cases step <;> first | rfl | cases beside
      obtain ⟨tasks, beside⟩ := d.machine.next_beside beside
      rw [goes]
      exact vigilant.world tasks beside
    by_cases failed : d.machine.failed = true
    · have same : d.machine.next step = d.machine := by simp [Machine.next, failed]
      cases step with
      | perform task answer =>
        have held : d.heldAfter task answer = d.held := by
          unfold heldAfter
          split
          · simp [failed]
          · rfl
        simp only [Device.next, same, held]
        exact vigilant
      | _ =>
        simp only [Device.next, same]
        exact vigilant
    have alive : d.machine.failed = false := by simpa using failed
    cases step with
    | perform task answer =>
      simp only [Device.next, Machine.next, alive]
      exact vigilant.perform alive
    | finish task =>
      simp only [Device.next, Machine.next, alive]
      exact vigilant.finish
    | abandon task =>
      simp only [Device.next, Machine.next, alive]
      exact vigilant.abandon
    | spawn task role =>
      simp only [Device.next, Machine.next, alive, Machine.spawn, Bool.false_eq_true, if_false]
      cases role with
      | serving queued => exact vigilant
      | _ =>
        simp only
        split
        next free => exact vigilant.put (Option.isNone_iff_eq_none.mp free.2) free.1
        next => exact vigilant
    | serve =>
      have goes : d.machine.next .serve = d.machine.serve := by simp [Machine.next, alive]
      simp only [Device.next, goes, Machine.serve]
      split
      next queued rest idle there =>
        have taken : ({ d with machine := { d.machine with shared := { d.machine.shared with queue := rest } } } : Device).Vigilant :=
          vigilant.world rfl (.taken there)
        have wellFormed : queued.event.wellFormed := vigilant.possible.queue queued (by
          rw [there]
          exact List.mem_cons_self ..)
        have begun : Role.wellFormed loopTask (.serving queued) := ⟨rfl, wellFormed⟩
        exact taken.put idle begun
      next => exact vigilant
    | _ => exact absurd rfl beside

theorem Vigilant.boot {manifests : List AppManifest} {sessions : Table AppSession} {held : Bool} :
    (Device.boot manifests sessions held).Vigilant where
  kept _ _ _ there := nomatch there
  idle _ _ _ held := nomatch held
  awake managed := nomatch managed
  possible := ⟨fun _ there => (nomatch there), fun _ there => (nomatch there), fun _ there => (nomatch there)⟩

/-- Only a suspend and the stock system let the wake lock go. -/
theorem Vigilant.letsGo {turn : Turn} (vigilant : d.Vigilant) (held : d.held = true) (gone : (d.next turn).held = false) :
    d.letsGo turn := by
  have kept : ¬d.held = false := by simp [held]
  cases turn with
  | cutOff task =>
    simp only [Device.next] at gone
    split at gone
    next restoring => exact (vigilant.cutOff restoring).2
    next => exact absurd gone kept
  | step step =>
    cases step with
    | perform task answer =>
      have after : d.heldAfter task answer = false := gone
      unfold heldAfter at after
      split at after
      next role β op next there =>
        split at after
        next able =>
          rw [held] at after
          obtain ⟨-, able⟩ : d.machine.failed = false ∧ op.ready task d.machine.shared = true := by simpa using able
          have heeds := (vigilant.answers there able answer).2
          have wakeful : op.errand = .wakeful := by
            by_contra calm
            rw [Op.wakelock_calm calm] at after
            cases after
          refine ⟨task, role, β, op, next, .inl ⟨answer, rfl⟩, there, heeds.locked wakeful, ?_⟩
          rcases Op.wakelock_gone after with suspends | restores
          · exact .inl ⟨suspends, heeds.asleep suspends⟩
          · exact .inr ⟨restores, heeds.stock restores⟩
        next => exact absurd after kept
      next => exact absurd after kept
    | _ => exact absurd gone kept

end Device

/-! ## What the controller does -/

/-- What the controller does for the call is what becomes of the wake lock, and it lets the
    lock go for a suspend, or once the stock shell is proven active. -/
def Call.carriedOut (made : Call Unit) (suspending : Prop) (body : SystemController.Controller Unit) : Prop :=
  ∀ s, (ExceptT.run body).Meets SystemController.commands (SystemController.handOver suspending)
    (fun outcome t => ∃ took, t.held = made.wakelock { ok := outcome.isOk, took } s.held) s

theorem Call.carriedOut_of_spec {made : Call Unit} {suspending : Prop} {body : SystemController.Controller Unit}
    (ends fails : Bool → Bool → Prop)
    (spec : ∀ before, Spec SystemController.commands
      (SystemController.Lock (· = before) : Assertion (SystemController.handOver suspending))
      body (fun _ => SystemController.Lock (ends before)) fun _ => SystemController.Lock (fails before))
    (ended : ∀ before held, ends before held → ∃ took, held = made.wakelock { ok := true, took } before)
    (failed : ∀ before held, fails before held → ∃ took, held = made.wakelock { ok := false, took } before) :
    made.carriedOut suspending body := by
  intro s
  refine Program.Meets.weaken (spec s.held s rfl) fun outcome t after => ?_
  cases outcome with
  | ok _ => exact ended s.held t.held after
  | error error => exact failed s.held t.held after

/-- The wake lock is taken, alone or for the managed domain. -/
theorem taking_carriedOut {made : Call Unit} (taking : made = .acquireWakelock ∨ made = .enterManaged) {suspending : Prop}
    {body : SystemController.Controller Unit}
    (spec : ∀ before, Spec SystemController.commands
      (SystemController.Lock (· = before) : Assertion (SystemController.handOver suspending))
      body (fun _ => SystemController.Lock (· = true)) fun _ => SystemController.Lock fun held => before = true → held = true) :
    made.carriedOut suspending body := by
  refine Call.carriedOut_of_spec (fun _ held => held = true) (fun before held => before = true → held = true) spec ?_ ?_
  · rintro before held rfl
    exact ⟨false, by rcases taking with rfl | rfl <;> simp [Call.wakelock]⟩
  · intro before held kept
    refine ⟨held, ?_⟩
    rcases taking with rfl | rfl <;> cases before <;> cases held <;> simp_all [Call.wakelock]

theorem suspend_carriedOut (settles polls : Nat) : Call.suspend.carriedOut True (SystemController.suspend settles polls) := by
  refine Call.carriedOut_of_spec (fun _ held => held = false) (fun before held => held = true → before = true)
    (SystemController.suspend_spec settles polls) ?_ ?_
  · rintro before held rfl
    exact ⟨false, by simp [Call.wakelock]⟩
  · intro before held fewer
    exact ⟨!held, by cases before <;> cases held <;> simp_all [Call.wakelock]⟩

theorem restoreSystem_carriedOut (polls : Nat) : Call.restoreSystem.carriedOut False (SystemController.restoreSystem polls) := by
  refine Call.carriedOut_of_spec (fun before held => held = true → before = true) (fun before held => held = before)
    (SystemController.startStock_spec polls) ?_ ?_
  · intro before held fewer
    exact ⟨!held, by cases before <;> cases held <;> simp_all [Call.wakelock]⟩
  · rintro before held rfl
    exact ⟨false, by simp [Call.wakelock]⟩

/-- Along every run the wake lock is held in the managed domain. It is let go only by a
    suspend while the device sleeps, or by the restore of the stock system, which does so
    once the stock shell is proven active. -/
theorem managed_wakelock (manifests : List AppManifest) (sessions : Table AppSession) (held : Bool) (turns : List Turn)
    (settles polls : Nat) :
    let d := turns.foldl Device.next (Device.boot manifests sessions held)
    (d.machine.shared.domain.managed = true → d.held = true) ∧
      (∀ turn, d.held = true → (d.next turn).held = false → d.letsGo turn) ∧
      Call.acquireWakelock.carriedOut False (SystemController.run .acquire) ∧
      Call.enterManaged.carriedOut False (SystemController.enterManaged polls) ∧
      Call.suspend.carriedOut True (SystemController.suspend settles polls) ∧
      Call.restoreSystem.carriedOut False (SystemController.restoreSystem polls) := by
  intro d
  have vigilant : d.Vigilant :=
    Runs.run_invariant (fun _ _ holds => holds.next) turns Device.Vigilant.boot
  refine ⟨vigilant.awake, fun turn => vigilant.letsGo, ?_, ?_, suspend_carriedOut settles polls, restoreSystem_carriedOut polls⟩
  · exact taking_carriedOut (.inl rfl) SystemController.acquire_spec
  · exact taking_carriedOut (.inr rfl) (SystemController.enterManaged_spec polls)

end Remagic.Daemon
