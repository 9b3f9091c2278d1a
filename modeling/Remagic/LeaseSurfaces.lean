import Remagic.LeaseOrder
import Remagic.LockFreeze

/-!
# The surfaces that leases name

A lease is granted on a registered surface, and the departure of a surface withdraws the
leases on it. Only while the display is locked may its surface come and go, until the lock
is about to be cancelled.
-/

namespace Remagic.Display
open Fallible

variable {client : Nat}

namespace HostState
variable {s t : HostState}

/-- The foreground or the prepared lease. -/
def Holds (s : HostState) (lease : ForegroundLease) : Prop :=
  s.foreground = some lease ∨ s.preparedForeground = some lease

/-- The host when a surface has left it, before the foreground follows. -/
def vacated (s : HostState) (key : Int) : HostState :=
  let dropped := (s.removeSurface key).dropPanelSurface key
  { dropped with preparedForeground := dropped.preparedForeground.filter fun prepared => prepared.key ≠ key }

/-- When the last client of a surface leaves, the panel takes the command that withdraws the
    foreground from it. -/
def Withdraws (s : HostState) (client : Nat) (key : Int) : Prop :=
  ∀ entry lease, s.surfaces key = some entry → (entry.clients.filter fun candidate => candidate ≠ client) = [] →
    s.leaseToClear key = some lease →
      ((clearForegroundLocked lease).run (s.vacated key).fenceInputContacts).1 = .ok ()

/-- What a step leaves in place, beside the leases. -/
structure Surfaced (s t : HostState) : Prop where
  lock : t.lock = s.lock
  foreground : t.foreground = s.foreground
  prepared : t.preparedForeground = s.preparedForeground
  surfaces : ∀ key, s.surfaceExists key = true → t.surfaceExists key = true

theorem Unmoved.surfaced {commands : List PanelCommand} (unmoved : Unmoved s t commands) (pruned : Pruned s.surfaces t.surfaces) :
    Surfaced s t :=
  ⟨unmoved.lock, unmoved.foreground, unmoved.prepared, fun key exists' => (pruned.isSome key).trans exists'⟩

theorem fence_surfaceExists (s : HostState) (key : Int) : s.fenceInputContacts.surfaceExists key = s.surfaceExists key := by
  obtain ⟨surfaces, queues, backpressure, commands, pruned, -, same⟩ := fence_frame s
  rw [same]
  exact pruned.isSome key

/-! ## Operations -/

/-- A lease after an operation is on a registered surface, or on that of a lease before it. -/
structure Regranted (cancelled : Nat) (s t : HostState) : Prop where
  surfaces : ∀ key, t.surfaceExists key = s.surfaceExists key
  granted : ∀ lease, t.Holds lease → s.surfaceExists lease.key = true ∨ ∃ old, s.Holds old ∧ old.key = lease.key
  locked : ∀ lock, s.lock = some lock → t.foreground = s.foreground ∧ t.preparedForeground = s.preparedForeground ∧
    (t.lock = some lock ∨ t.lock = none ∧ cancelled = lock.sleepEpoch)
  unlocked : s.lock = none → ∀ lock, t.lock = some lock → t.preparedForeground = none ∧ t.foreground = some lock.foreground

variable {cancelled : Nat}

/-- An operation on an unlocked display that leaves it unlocked. -/
theorem Regranted.of_unlocked (unlocked : s.lock = none) (lock : t.lock = s.lock)
    (surfaces : ∀ key, t.surfaceExists key = s.surfaceExists key)
    (granted : ∀ lease, t.Holds lease → s.surfaceExists lease.key = true ∨ ∃ old, s.Holds old ∧ old.key = lease.key) :
    Regranted cancelled s t := by
  refine ⟨surfaces, granted, fun held locked => ?_, fun _ held locked => ?_⟩
  · rw [unlocked] at locked
    cases locked
  · rw [lock, unlocked] at locked
    cases locked

theorem Operated.regranted (operated : Operated cancelled s t) : Regranted cancelled s t := by
  have fenced : ∀ u : HostState, u.fenceInputContacts.lock = u.lock ∧ u.fenceInputContacts.foreground = u.foreground ∧
      u.fenceInputContacts.preparedForeground = u.preparedForeground := by
    intro u
    obtain ⟨_, _, unmoved⟩ := fence_unmoved u
    exact ⟨unmoved.lock, unmoved.foreground, unmoved.prepared⟩
  cases operated with
  | idle => exact ⟨fun _ => rfl, fun lease held => .inr ⟨lease, held, rfl⟩, fun lock locked => ⟨rfl, rfl, .inl locked⟩,
      fun unlocked lock locked => by rw [unlocked] at locked; cases locked⟩
  | shown lease command unlocked shows kind =>
    exact .of_unlocked unlocked rfl (fun _ => rfl) fun lease held => .inr ⟨lease, held, rfl⟩
  | inked foreground enabled region unlocked shows =>
    refine .of_unlocked unlocked rfl (fun _ => rfl) ?_
    rintro lease (shown | prepared)
    · cases shown
      exact .inr ⟨foreground, .inl shows, rfl⟩
    · exact .inr ⟨lease, .inr prepared, rfl⟩
  | held lock command locked kind =>
    refine ⟨fun _ => rfl, fun lease held => .inr ⟨lease, held, rfl⟩, fun other same => ⟨rfl, rfl, .inl same⟩, ?_⟩
    intro unlocked
    rw [unlocked] at locked
    cases locked
  | switched lease fullRefresh unlocked admits =>
    refine .of_unlocked unlocked (fenced _).1 (fun key => fence_surfaceExists _ key) ?_
    rintro other (shown | prepared)
    · cases shown
      exact .inl admits.connected
    · cases prepared
  | prepared lease unlocked admits =>
    refine .of_unlocked unlocked (fenced _).1 (fun key => fence_surfaceExists _ key) ?_
    rintro other (shown | prepared)
    · have kept := (fenced (s.commitForegroundFence lease.key lease.generation lease.epoch)).2.1
      exact .inr ⟨other, .inl (kept.symm.trans shown), rfl⟩
    · cases prepared
      exact .inl admits.connected
  | activated lease inkEnabled fullRefresh unlocked prepared =>
    refine .of_unlocked unlocked rfl (fun _ => rfl) ?_
    rintro other (shown | again)
    · cases shown
      exact .inr ⟨lease, .inr prepared, rfl⟩
    · cases again
  | withdrawn unlocked =>
    refine .of_unlocked unlocked rfl (fun _ => rfl) ?_
    rintro lease (shown | prepared)
    · exact .inr ⟨lease, .inl shown, rfl⟩
    · cases prepared
  | cleared lease unlocked shows =>
    refine .of_unlocked unlocked (fenced _).1 (fun key => fence_surfaceExists _ key) ?_
    rintro other (shown | prepared)
    · cases shown
    · have none : Option.none = some other := (fenced _).2.2.symm.trans prepared
      cases none
  | locked lease sleepEpoch unlocked unprepared newer admits =>
    refine ⟨fun key => fence_surfaceExists _ key, ?_, fun lock locked => ?_, fun _ lock locked => ?_⟩
    · rintro other (shown | prepared)
      · cases shown
        exact .inl admits.connected
      · have kept := (fenced { (s.sent (.showLock lease.panelLease sleepEpoch)).commitForegroundFence lease.key
            lease.generation lease.epoch with lastSleepEpoch := sleepEpoch }).2.2
        exact .inr ⟨other, .inr (kept.symm.trans prepared), rfl⟩
    · rw [unlocked] at locked
      cases locked
    · cases locked
      exact ⟨(fenced _).2.2.trans unprepared, rfl⟩
  | finished lock locked acknowledged =>
    refine ⟨fun key => fence_surfaceExists _ key, ?_, fun other same => ?_, fun unlocked => ?_⟩
    · rintro other (shown | prepared)
      · exact .inr ⟨other, .inl ((fenced _).2.1.symm.trans shown), rfl⟩
      · exact .inr ⟨other, .inr ((fenced _).2.2.symm.trans prepared), rfl⟩
    · rw [locked] at same
      cases same
      exact ⟨(fenced _).2.1, (fenced _).2.2, .inr ⟨rfl, acknowledged⟩⟩
    · rw [unlocked] at locked
      cases locked

/-- A lock is cancelled, or begins to be, only while its surface is registered. -/
theorem cancelLock_registered (shm : Nat → SharedSurface) (telemetry : PanelTelemetry) (sleepEpoch sequence : Nat) :
    AllOrNothing s (cancelLock shm telemetry sleepEpoch sequence) s fun _ _ =>
      ∀ lock, s.lock = some lock → s.surfaceExists lock.foreground.key = true := by
  unfold cancelLock cancellableLock
  rw [bind_assoc]
  apply allOrNothing_get_bind
  cases held : s.lock with
  | none =>
    simp only [bind_assoc]
    exact allOrNothing_failIf fun _ _ same => by cases same
  | some lock =>
    simp only [bind_assoc]
    refine allOrNothing_failIf fun same => ?_
    rw [pure_bind]
    refine allOrNothing_failIf fun _ => ?_
    unfold validateReplacementSequence
    simp only [bind_assoc]
    apply allOrNothing_get_bind
    cases registered : s.surfaces lock.foreground.key with
    | none => exact allOrNothing_throw _
    | some entry =>
      simp only [bind_assoc]
      refine allOrNothing_failIf fun _ => allOrNothing_failIf fun _ => ?_
      have there : ∀ other, some lock = some other → s.surfaceExists other.foreground.key = true := by
        intro other same
        cases same
        simp [surfaceExists, registered]
      by_cases acknowledged : telemetry.cancelledLockEpoch = lock.sleepEpoch
      · simp only [acknowledged, if_true]
        exact allOrNothing_modify_bind there
      · simp only [acknowledged, if_false]
        exact enqueuePanel_rule rfl there

/-! ## Departures -/

theorem vacated_departed (key : Int) : ∃ told, s.vacated key = s.departed key told := by
  unfold vacated
  rcases dropPanelSurface_spec (s := s.removeSurface key) key with refused | told
  · exact ⟨false, by rw [refused]; rfl⟩
  · exact ⟨true, by rw [told]; rfl⟩

theorem vacated_frame (key : Int) :
    (s.vacated key).lock = s.lock ∧ (s.vacated key).foreground = s.foreground ∧
    (s.vacated key).preparedForeground = (s.preparedForeground.filter fun prepared => prepared.key ≠ key) ∧
    ∀ other, other ≠ key → (s.vacated key).surfaceExists other = s.surfaceExists other := by
  obtain ⟨told, same⟩ := vacated_departed (s := s) key
  rw [same]
  have others : ∀ other, other ≠ key → (Function.update s.surfaces key none other).isSome = s.surfaceExists other := by
    intro other apart
    rw [Function.update_of_ne apart]
    rfl
  cases told <;> exact ⟨rfl, rfl, rfl, others⟩

/-- What is left of a departure whose withdrawal the panel takes. -/
theorem unregister_cases {key : Int} (withdraws : s.Withdraws client key) :
    s.unregister client key = s ∨
    (∃ (entry : SurfaceEntry) (clients : List Nat), s.unregister client key =
      { s with surfaces := Function.update s.surfaces key (some { entry with clients := clients }) }) ∨
    (s.leaseToClear key = none ∧ s.unregister client key = s.vacated key) ∨
    ∃ lease, s.leaseToClear key = some lease ∧ s.unregister client key =
      { ((s.vacated key).fenceInputContacts.sent (.clearForeground lease)).fenceInputContacts with
        foreground := none } := by
  unfold unregister
  cases registered : s.surfaces key with
  | none => exact .inl rfl
  | some entry =>
    simp only
    by_cases others : (entry.clients.filter fun candidate => candidate ≠ client) = []
    · simp only [others, ne_eq, not_true_eq_false, if_false]
      cases clears : s.leaseToClear key with
      | none => exact .inr (.inr (.inl ⟨rfl, rfl⟩))
      | some lease =>
        refine .inr (.inr (.inr ⟨lease, rfl, ?_⟩))
        have taken := withdraws entry lease registered others clears
        obtain ⟨told, same⟩ := vacated_departed (s := s) key
        obtain ⟨_, _, unmoved⟩ := fence_unmoved (s.vacated key)
        have still : (s.vacated key).fenceInputContacts.requested = some lease := by
          rw [unmoved.requested, same, departed_requested]
          exact (leaseToClear_spec clears).1
        have spec : AllOrNothing (s.vacated key).fenceInputContacts (clearForegroundLocked lease)
            (s.vacated key).fenceInputContacts fun _ t => t = _ :=
          clearForegroundLocked_rule (fun other => absurd still other) fun _ => rfl
        show (s.vacated key).clearDeparted lease = _
        unfold clearDeparted
        rcases spec.cases with ⟨error, failed⟩ | ⟨result, after, ended, done⟩
        · rw [failed] at taken
          cases taken
        · simp only [ended, done]
    · simp only [others, ne_eq, not_false_eq_true, if_true]
      exact .inr (.inl ⟨entry, _, rfl⟩)

/-- A departure takes no lease over, and the leases on the surface go with it, unless the lock holds them. -/
theorem unregister_leases {key : Int} (withdraws : s.Withdraws client key) :
    (s.unregister client key).lock = s.lock ∧
    (∀ lease, (s.unregister client key).Holds lease → s.Holds lease) ∧
    (s.lock = none → ∀ lease, (s.unregister client key).Holds lease → s.surfaceExists lease.key = true →
      (s.unregister client key).surfaceExists lease.key = true) ∧
    ∀ lock, s.lock = some lock → s.preparedForeground = none ∧ s.foreground = some lock.foreground →
      (s.unregister client key).preparedForeground = none ∧
        (s.unregister client key).foreground = some lock.foreground := by
  obtain ⟨lock, foreground, prepared, others⟩ := vacated_frame (s := s) key
  rcases unregister_cases withdraws with same | ⟨entry, clients, same⟩ | ⟨stays, same⟩ | ⟨lease, clears, same⟩
  · rw [same]
    exact ⟨rfl, fun _ held => held, fun _ _ _ there => there, fun _ _ shown => shown⟩
  · rw [same]
    refine ⟨rfl, fun _ held => held, fun _ lease _ there => ?_, fun _ _ shown => shown⟩
    by_cases here : lease.key = key
    · simp [surfaceExists, here]
    · simp only [surfaceExists, Function.update_of_ne here]
      exact there
  · rw [same]
    refine ⟨lock, ?_, ?_, fun _ _ shown => ⟨by rw [prepared, shown.1]; rfl, foreground.trans shown.2⟩⟩
    · rintro lease (shown | waits)
      · exact .inl (foreground.symm.trans shown)
      · rw [prepared] at waits
        exact .inr (Option.filter_eq_some_iff.mp waits).1
    · rintro unlocked lease (shown | waits) there
      · rw [foreground] at shown
        have elsewhere : lease.key ≠ key := by
          intro here
          simp [leaseToClear, requested, shown, unlocked, ForegroundLease.panelLease, here] at stays
        rw [others _ elsewhere]
        exact there
      · rw [prepared] at waits
        have elsewhere := (Option.filter_eq_some_iff.mp waits).2
        rw [others _ (by simpa using elsewhere)]
        exact there
  · obtain ⟨requests, here, apart⟩ := leaseToClear_spec clears
    obtain ⟨_, _, first⟩ := fence_unmoved (s.vacated key)
    obtain ⟨_, _, second⟩ := fence_unmoved ((s.vacated key).fenceInputContacts.sent (.clearForeground lease))
    have waiting : (s.unregister client key).preparedForeground =
        s.preparedForeground.filter fun prepared => prepared.key ≠ key := by
      rw [same]
      exact second.prepared.trans (first.prepared.trans prepared)
    have surfaces : ∀ other, other ≠ key → (s.unregister client key).surfaceExists other = s.surfaceExists other := by
      intro other elsewhere
      rw [same]
      show (HostState.fenceInputContacts _).surfaceExists other = _
      rw [fence_surfaceExists, ← others other elsewhere]
      exact fence_surfaceExists _ other
    have hidden : (s.unregister client key).foreground = none := by rw [same]
    refine ⟨?_, ?_, ?_, ?_⟩
    · rw [same]
      exact second.lock.trans (first.lock.trans lock)
    · rintro other (shown | waits)
      · rw [hidden] at shown
        cases shown
      · rw [waiting] at waits
        exact .inr (Option.filter_eq_some_iff.mp waits).1
    · rintro - other (shown | waits) there
      · rw [hidden] at shown
        cases shown
      · rw [waiting] at waits
        have elsewhere := (Option.filter_eq_some_iff.mp waits).2
        rw [surfaces _ (by simpa using elsewhere)]
        exact there
    · intro held locked shown
      refine absurd ?_ (apart held locked)
      have requested : s.requested = some held.foreground.panelLease := congrArg (Option.map _) shown.2
      rw [requests] at requested
      cases requested
      exact here

/-! ## Registrations -/

/-- An activation that is refused leaves a surface that the registration does not own any more. -/
theorem activateClient_refused (key : Int) (client : Nat) :
    Ends (activateClient key client) s fun result t =>
      (∃ error, result = .error error) ∧ t = s ∧ s.abortRegistration key = s ∨
      (∃ done, result = .ok done) ∧ Surfaced s t := by
  unfold activateClient
  apply ends_get_bind
  cases registered : s.surfaces key with
  | none => exact .inl ⟨⟨_, rfl⟩, rfl, by simp [abortRegistration, registered]⟩
  | some entry =>
    refine ends_failIf (fun owned => .inl ⟨⟨_, rfl⟩, rfl, ?_⟩) fun _ => .inr ⟨⟨_, rfl⟩, rfl, rfl, rfl, ?_⟩
    · simp only [ne_eq] at owned
      simp [abortRegistration, registered, owned]
    · intro other there
      show (Function.update s.surfaces key (some { entry with clients := [client] }) other).isSome = true
      by_cases here : other = key
      · simp [here]
      · rw [Function.update_of_ne here]
        exact there

theorem registered_surfaced (shm : Nat → SharedSurface) (key width height : Int) (format : PixelFormat) (creation : Creation) :
    Surfaced s ((register shm key width height format creation).run s).2 := by
  have spec := register_spec (s := s) shm key width height format creation
  unfold Ends at spec
  rcases spec with ⟨error, next, -, after⟩ | ⟨shmKey, surface, next, -, -, after⟩
  · rw [after]
    exact ⟨rfl, rfl, rfl, fun _ there => there⟩
  · rw [after]
    refine ⟨rfl, rfl, rfl, fun other there => ?_⟩
    by_cases here : other = key
    · simp [surfaceExists, insertSurface, sent, here]
    · simp only [surfaceExists, insertSurface, sent, Function.update_of_ne here]
      exact there

theorem aborted_surfaces (key other : Int) (apart : other ≠ key) :
    (s.abortRegistration key).surfaceExists other = s.surfaceExists other := by
  rcases abortRegistration_spec (s := s) key with same | ⟨entry, -, -, same | same⟩
  · rw [same]
  · rw [same]
    simp only [surfaceExists, removeSurface, failClosed, Function.update_of_ne apart]
  · rw [same]
    simp only [surfaceExists, removeSurface, sent, Function.update_of_ne apart]

end HostState

namespace DisplayHost
variable {s t : DisplayHost}

/-- The host relies on the surface for a lease: the display is not locked, or waits for the
    cancellation of its lock. -/
def Relies (s : DisplayHost) (key : Int) : Prop :=
  (s.host.lock = none ∨ ∃ sleepEpoch, s.foregroundOps = some (.lockCancellation sleepEpoch)) ∧
    ∃ lease, s.host.Holds lease ∧ lease.key = key

structure Housed (s : DisplayHost) : Prop where
  registered : ∀ key, s.Relies key → s.host.surfaceExists key = true
  locked : ∀ lock, s.host.lock = some lock →
    s.host.preparedForeground = none ∧ s.host.foreground = some lock.foreground

/-- No registration is given up whose surface the host relies on, and the panel takes the
    withdrawal of a foreground whose surface departs. -/
def Orderly (s : DisplayHost) : HostEvent → Prop
  | .replyFailed client => ∀ key, s.connections[client]? = some (.registering key) → ¬ s.Relies key
  | .disconnect client => ∀ key, s.connections[client]? = some (.active key) → s.foregroundOps = none →
      s.host.Withdraws client key
  | _ => True

/-- What leaves the leases and their surfaces in place keeps the invariant. -/
theorem Housed.surfaced (housed : s.Housed) (kept : HostState.Surfaced s.host t.host)
    (waiting : ∀ sleepEpoch, t.foregroundOps = some (.lockCancellation sleepEpoch) →
      s.foregroundOps = some (.lockCancellation sleepEpoch)) : t.Housed := by
  have held : ∀ lease, t.host.Holds lease → s.host.Holds lease := by
    rintro lease (shown | prepared)
    · exact .inl (kept.foreground.symm.trans shown)
    · exact .inr (kept.prepared.symm.trans prepared)
  constructor
  · rintro key ⟨open' | ⟨sleepEpoch, waits⟩, lease, holds, here⟩
    · exact kept.surfaces key (housed.registered key ⟨.inl (kept.lock.symm.trans open'), lease, held lease holds, here⟩)
    · exact kept.surfaces key
        (housed.registered key ⟨.inr ⟨sleepEpoch, waiting sleepEpoch waits⟩, lease, held lease holds, here⟩)
  · intro lock locked
    obtain ⟨unprepared, shown⟩ := housed.locked lock (kept.lock.symm.trans locked)
    exact ⟨kept.prepared.trans unprepared, kept.foreground.trans shown⟩

theorem Housed.still (housed : s.Housed) (host : HostState.Surfaced s.host t.host)
    (ops : t.foregroundOps = s.foregroundOps) : t.Housed :=
  housed.surfaced host fun _ waits => ops.symm.trans waits

/-- An operation under the operations' lock. The lock that it takes off is one whose surface
    is registered, and so is the one that it begins to take off. -/
theorem Housed.operated (housed : s.Housed) {cancelled : Nat}
    (regranted : HostState.Regranted cancelled s.host t.host)
    (unlocks : ∀ lock, s.host.lock = some lock →
      cancelled = lock.sleepEpoch ∨ (∃ sleepEpoch, t.foregroundOps = some (.lockCancellation sleepEpoch)) →
        s.host.surfaceExists lock.foreground.key = true) : t.Housed := by
  cases locked : s.host.lock with
  | none =>
    constructor
    · rintro key ⟨-, lease, holds, rfl⟩
      rw [regranted.surfaces]
      rcases regranted.granted lease holds with there | ⟨old, held, same⟩
      · exact there
      · exact same ▸ housed.registered old.key ⟨.inl locked, old, held, rfl⟩
    · exact regranted.unlocked locked
  | some lock =>
    obtain ⟨unprepared, shown⟩ := housed.locked lock locked
    obtain ⟨foreground, prepared, after⟩ := regranted.locked lock locked
    constructor
    · rintro key ⟨freed, lease, holds, rfl⟩
      have same : lease = lock.foreground := by
        rcases holds with shows | prepares
        · rw [foreground, shown] at shows
          exact (Option.some.inj shows).symm
        · rw [prepared, unprepared] at prepares
          cases prepares
      rw [regranted.surfaces, same]
      refine unlocks lock locked ?_
      rcases freed with unlocked | waiting
      · rcases after with still | cancels
        · rw [unlocked] at still
          cases still
        · exact .inl cancels.2
      · exact .inr waiting
    · intro other still
      rcases after with same | cancels
      · rw [same] at still
        cases still
        exact ⟨prepared.trans unprepared, foreground.trans shown⟩
      · rw [cancels.1] at still
        cases still

theorem exclusively_housed {step : DisplayHost → DisplayHost} (housed : s.Housed)
    (free : s.foregroundOps = none → (step s).Housed) : (s.exclusively step).Housed := by
  unfold exclusively
  cases held : s.foregroundOps with
  | none => simpa using free held
  | some waiting => simpa using housed

theorem withKey_housed {step : DisplayHost → Int → DisplayHost} (housed : s.Housed) (keyed : ∀ key, (step s key).Housed) :
    (s.withKey client step).Housed := by
  unfold withKey
  cases s.keyOf client with
  | none => exact housed
  | some key => exact keyed key

/-- An operation that does not take the lock off, and does not wait. -/
theorem Housed.edited (housed : s.Housed) (idle : t.foregroundOps = none)
    (operated : ∀ cancelled, HostState.Operated cancelled s.host t.host) : t.Housed := by
  -- an epoch that is not the lock's
  let other := (s.host.lock.map LockLease.sleepEpoch).elim 0 Nat.succ
  refine housed.operated (operated other).regranted ?_
  rintro lock locked (cancels | ⟨sleepEpoch, waits⟩)
  · have apart : other = lock.sleepEpoch + 1 := by simp [other, locked]
    omega
  · rw [idle] at waits
    cases waits

theorem perform_housed {α : Type} {operation : Hosted α} (housed : s.Housed)
    (operated : ∀ cancelled, HostState.Operated cancelled s.host (operation.run s.host).2) :
    (s.exclusively fun s => (s.perform operation).2).Housed :=
  exclusively_housed housed fun idle => housed.edited idle operated

theorem damage_housed (housed : s.Housed) (idle : s.foregroundOps = none) (key : Int) (rect : Option Rect) :
    (s.damage key rect).Housed := by
  refine housed.edited ((damage_frame key rect).trans idle) fun cancelled => ?_
  unfold damage perform
  split
  · exact .idle
  rename_i entry registered
  have operated := (HostState.damage_spec (s := s.host) cancelled key (rect.getD (s.shm entry.shmKey).fullRect)
    (damageIntent (s.shm entry.shmKey))).1
  dsimp only
  generalize ExceptT.run (HostState.damage _ _ _) s.host = outcome at operated ⊢
  obtain ⟨result, host⟩ := outcome
  rcases result with error | (_ | lease) <;> exact operated

theorem configureInk_housed (housed : s.Housed) (key : Int) (generation epoch : Nat) (enabled : Bool)
    (region : Option Rect) : (s.begin (some <$> HostState.configureInk key generation epoch enabled region)).Housed := by
  unfold begin perform
  rw [map_eq_pure_bind, run_bind]
  rcases (HostState.configureInk_spec (s := s.host) key generation epoch enabled region).cases with
    ⟨error, failed⟩ | ⟨waiting, after, ended, unlocked, foreground, shows, rfl, rfl⟩
  · rw [failed]
    exact housed
  · rw [ended]
    have operated : HostState.Operated 0 s.host _ := .inked foreground enabled region unlocked shows
    refine housed.operated operated.regranted fun lock locked => ?_
    rw [unlocked] at locked
    cases locked

theorem cancelLock_housed (housed : s.Housed) (sleepEpoch sequence : Nat) :
    (s.begin (HostState.cancelLock s.shm s.worker.telemetry sleepEpoch sequence)).Housed := by
  have operated := HostState.cancelLock_operated (s := s.host) s.shm s.worker.telemetry sleepEpoch sequence
  unfold begin perform
  rcases (HostState.cancelLock_registered (s := s.host) s.shm s.worker.telemetry sleepEpoch sequence).cases with
    ⟨error, failed⟩ | ⟨waiting, after, ended, registered⟩
  · rw [failed]
    exact housed
  · rw [ended] at operated ⊢
    exact housed.operated operated.regranted fun lock locked _ => registered lock locked

/-- The lock goes only while its surface is there. -/
theorem acknowledged_housed (housed : s.Housed) : s.acknowledged.Housed := by
  unfold acknowledged
  split
  · rename_i sleepEpoch waiting
    split
    · obtain ⟨_, _, unmoved⟩ := HostState.fence_unmoved s.host
      constructor
      · rintro key ⟨-, lease, holds, rfl⟩
        show s.host.fenceInputContacts.surfaceExists lease.key = true
        rw [HostState.fence_surfaceExists]
        refine housed.registered lease.key ⟨.inr ⟨sleepEpoch, waiting⟩, lease, ?_, rfl⟩
        rcases holds with shown | prepared
        · exact .inl (unmoved.foreground.symm.trans shown)
        · exact .inr (unmoved.prepared.symm.trans prepared)
      · intro lock locked
        cases locked
    · exact housed
  · split
    · exact housed.surfaced ⟨rfl, rfl, rfl, fun _ there => there⟩ fun _ waits => by cases waits
    · exact housed
  · exact housed

theorem disconnect_housed (housed : s.Housed) (orderly : s.Orderly (.disconnect client)) :
    (s.disconnect client).Housed := by
  unfold disconnect
  split
  · exact housed.still ⟨rfl, rfl, rfl, fun _ there => there⟩ rfl
  · rename_i key active
    refine exclusively_housed housed fun idle => ?_
    obtain ⟨lock, holds, surfaces, locked⟩ := HostState.unregister_leases (orderly key active idle)
    have left : ({ s with host := s.host.unregister client key } : DisplayHost).Housed := by
      constructor
      · rintro other ⟨unlocked | ⟨_, waits⟩, lease, held, rfl⟩
        · have unlocked := lock.symm.trans unlocked
          exact surfaces unlocked lease held (housed.registered lease.key ⟨.inl unlocked, lease, holds lease held, rfl⟩)
        · exact absurd (idle.symm.trans waits) (by simp)
      · intro held stays
        have before := lock.symm.trans stays
        exact locked held before (housed.locked held before)
    exact left.still ⟨rfl, rfl, rfl, fun _ there => there⟩ rfl
  · exact housed

theorem replyFailed_housed (housed : s.Housed) (orderly : s.Orderly (.replyFailed client)) :
    (s.replyFailed client).Housed := by
  unfold replyFailed
  split
  · rename_i key registering
    have unused := orderly key registering
    have kept := abort_kept (s := s) client key
    constructor
    · rintro other ⟨freed, lease, holds, here⟩
      have relies : s.Relies other := by
        refine ⟨freed.imp (fun unlocked => kept.lock.symm.trans unlocked) id, lease, ?_, here⟩
        rcases holds with shown | prepared
        · exact .inl (kept.foreground.symm.trans shown)
        · exact .inr (kept.prepared.symm.trans prepared)
      have apart : other ≠ key := fun same => unused (same ▸ relies)
      show (s.host.abortRegistration key).surfaceExists other = true
      rw [HostState.aborted_surfaces key other apart]
      exact housed.registered other relies
    · intro lock locked
      obtain ⟨unprepared, shown⟩ := housed.locked lock (kept.lock.symm.trans locked)
      exact ⟨kept.prepared.trans unprepared, kept.foreground.trans shown⟩
  · exact housed

theorem activateClient_housed (housed : s.Housed) (client : Nat) : (s.activateClient client).Housed := by
  unfold activateClient perform
  split
  · rename_i key registering
    have spec := HostState.activateClient_refused (s := s.host) key client
    unfold Ends at spec
    rcases run : (HostState.activateClient key client).run s.host with ⟨result, host⟩
    rw [run] at spec
    rcases spec with ⟨⟨error, rfl⟩, rfl, still⟩ | ⟨⟨done, rfl⟩, surfaced⟩
    · show (s.abort client key).Housed
      have kept := abort_kept (s := s) client key
      refine housed.still ⟨kept.lock, kept.foreground, kept.prepared, fun other there => ?_⟩ rfl
      show (s.host.abortRegistration key).surfaceExists other = true
      rw [still]
      exact there
    · exact housed.still surfaced rfl
  · exact housed

theorem dispatch_housed (housed : s.Housed) (captured : CapturedInput) : (s.dispatch captured).Housed := by
  obtain ⟨commands, -, unmoved, pruned⟩ :=
    HostState.dispatch_frame (s := s.host) s.worker.telemetry.committedForeground captured
  exact housed.still (unmoved.surfaced pruned) rfl

theorem work_surfaced (now : Int) (marker : Option Nat) :
    HostState.Surfaced s.host (s.work now marker).host ∧ (s.work now marker).foregroundOps = s.foregroundOps := by
  have kept := work_kept (s := s) now marker
  refine ⟨⟨kept.lock, kept.foreground, kept.prepared, fun key there => ?_⟩, (work_frame now marker).1⟩
  have surfaces : (s.work now marker).host.surfaces = s.host.surfaces := by
    unfold work
    split
    · rfl
    dsimp only
    split
    · rfl
    split
    · rfl
    split <;> rfl
  unfold HostState.surfaceExists
  rw [surfaces]
  exact there

theorem flush_surfaced (outcome : Outcome) :
    HostState.Surfaced s.host (s.flush outcome).host ∧ (s.flush outcome).foregroundOps = s.foregroundOps := by
  unfold flush
  split <;> exact ⟨⟨rfl, rfl, rfl, fun _ there => there⟩, rfl⟩

theorem whileRunning_housed {step : DisplayHost → DisplayHost} (housed : s.Housed)
    (frame : HostState.Surfaced s.host (step s).host ∧ (step s).foregroundOps = s.foregroundOps) :
    (s.whileRunning step).Housed := by
  unfold whileRunning
  split
  · exact housed.still frame.1 frame.2
  · exact housed

theorem updateSurface_housed (housed : s.Housed) (key : Int) (edit : SharedSurface → SharedSurface) :
    (s.updateSurface key edit).Housed := by
  unfold updateSurface
  split
  · exact housed
  · exact housed.still ⟨rfl, rfl, rfl, fun _ there => there⟩ rfl

/-- One step of the machine. -/
theorem next_housed (s : DisplayHost) (event : HostEvent) (housed : s.Housed) (orderly : s.Orderly event) :
    (s.next event).Housed := by
  have same : ∀ {t : DisplayHost}, HostState.Surfaced s.host t.host → t.foregroundOps = s.foregroundOps → t.Housed :=
    fun host ops => housed.still host ops
  cases event with
  | connect => exact same ⟨rfl, rfl, rfl, fun _ there => there⟩ rfl
  | register client key width height format creation =>
    show (s.register client key width height format creation).Housed
    have surfaced := HostState.registered_surfaced (s := s.host) s.shm key width height format creation
    unfold register perform
    split
    · exact housed
    rcases run : (HostState.register s.shm key width height format creation).run s.host with ⟨result, host⟩
    rw [run] at surfaced
    cases result with
    | error error =>
      show (DisplayHost.closeConnection { s with host := host } client).Housed
      exact same ⟨surfaced.lock, surfaced.foreground, surfaced.prepared, surfaced.surfaces⟩ rfl
    | ok made => exact same ⟨surfaced.lock, surfaced.foreground, surfaced.prepared, surfaced.surfaces⟩ rfl
  | activateClient client => exact activateClient_housed housed client
  | replyFailed client => exact replyFailed_housed housed orderly
  | draw shmKey bytes => exact same ⟨rfl, rfl, rfl, fun _ there => there⟩ rfl
  | markCommit client =>
    simp only [next]
    exact withKey_housed housed fun key => updateSurface_housed housed key _
  | damage client rect =>
    simp only [next]
    exact withKey_housed housed fun key => exclusively_housed housed fun idle => damage_housed housed idle key rect
  | setRefreshMode client mode =>
    simp only [next]
    exact withKey_housed housed fun key => updateSurface_housed housed key _
  | requestSurfaceFullRefresh client =>
    simp only [next]
    exact withKey_housed housed fun key => perform_housed housed fun _ => HostState.requestSurfaceFullRefresh_operated key
  | disconnect client => exact disconnect_housed housed orderly
  | receive client => exact same ⟨rfl, rfl, rfl, fun _ there => there⟩ rfl
  | setForeground key generation epoch fullRefresh =>
    simp only [next]
    exact perform_housed housed fun _ => HostState.setForeground_operated key generation epoch fullRefresh
  | prepareForeground key generation epoch =>
    simp only [next]
    exact perform_housed housed fun _ => HostState.prepareForeground_operated key generation epoch
  | activateForeground key generation epoch inkEnabled fullRefresh =>
    simp only [next]
    exact perform_housed housed fun _ =>
      HostState.activateForeground_operated key generation epoch inkEnabled fullRefresh
  | clearForeground =>
    simp only [next]
    exact perform_housed housed fun _ => HostState.clearForeground_operated
  | configureInk key generation epoch enabled region =>
    simp only [next]
    exact exclusively_housed housed fun _ => configureInk_housed housed key generation epoch enabled region
  | requestFullRefresh =>
    simp only [next]
    exact perform_housed housed fun _ => HostState.requestFullRefresh_operated
  | showLock key generation epoch sleepEpoch =>
    simp only [next]
    exact perform_housed housed fun _ => HostState.showLock_operated key generation epoch sleepEpoch
  | refreshLock sleepEpoch =>
    simp only [next]
    exact perform_housed housed fun _ => HostState.refreshLock_operated sleepEpoch
  | cancelLock sleepEpoch sequence =>
    simp only [next]
    exact exclusively_housed housed fun _ => cancelLock_housed housed sleepEpoch sequence
  | acknowledged => exact acknowledged_housed housed
  | timedOut => exact housed.surfaced ⟨rfl, rfl, rfl, fun _ there => there⟩ fun _ waits => by cases waits
  | inject epoch frame =>
    simp only [next]
    exact exclusively_housed housed fun _ => dispatch_housed housed _
  | shutdown =>
    rcases HostState.offerPanel_spec (s := { s.host with shutdown := true }) .shutdown with refused | accepted
    · simp only [next, refused]
      exact same ⟨rfl, rfl, rfl, fun _ there => there⟩ rfl
    · simp only [next, accepted]
      exact same ⟨rfl, rfl, rfl, fun _ there => there⟩ rfl
  | capture frame =>
    show (s.capture frame).Housed
    unfold capture
    split
    · exact housed
    · exact same ⟨rfl, rfl, rfl, fun _ there => there⟩ rfl
  | dispatchPen =>
    simp only [next]
    refine exclusively_housed housed fun _ => ?_
    unfold dispatchPen
    cases s.penInput with
    | nil => exact housed
    | cons captured rest =>
      have popped : ({ s with penInput := rest } : DisplayHost).Housed := same ⟨rfl, rfl, rfl, fun _ there => there⟩ rfl
      exact dispatch_housed popped captured
  | dispatchTouch =>
    simp only [next]
    refine exclusively_housed housed fun _ => ?_
    unfold dispatchTouch
    cases s.touchInput with
    | nil => exact housed
    | cons captured rest =>
      have popped : ({ s with touchInput := rest } : DisplayHost).Housed := same ⟨rfl, rfl, rfl, fun _ there => there⟩ rfl
      exact dispatch_housed popped captured
  | work now marker =>
    simp only [next]
    exact whileRunning_housed housed (work_surfaced now marker)
  | flushDeferred now marker =>
    simp only [next]
    exact whileRunning_housed housed (flush_surfaced _)
  | flushDeadlines now marker =>
    simp only [next]
    exact whileRunning_housed housed (flush_surfaced _)

theorem start_housed (shm : Nat → SharedSurface) (backend : PanelBackend) : (start shm backend).Housed := by
  constructor
  · rintro key ⟨-, lease, shown | prepared, -⟩
    · cases shown
    · cases prepared
  · intro lock locked
    cases locked

/-- In an orderly run every lease of an unlocked display names a registered surface. -/
theorem leases_name_surfaces (shm : Nat → SharedSurface) (backend : PanelBackend) (events : List HostEvent)
    (orderly : Runs.Along next Orderly (start shm backend) events) :
    let s := events.foldl next (start shm backend)
    s.host.lock = none → ∀ lease, s.host.Holds lease → s.host.surfaceExists lease.key = true := by
  intro s unlocked lease holds
  have housed : s.Housed := orderly.invariant Housed next_housed (start_housed shm backend)
  exact housed.registered lease.key ⟨.inl unlocked, lease, holds, rfl⟩

end DisplayHost

namespace Sample

/-- Beside the application on the display one gives its registration up, and another is shown and leaves. -/
def orderly : List HostEvent :=
  [.connect, .register 0 1 2 2 .rgb565 ⟨0, none⟩, .activateClient 0,
    .connect, .register 1 2 2 2 .rgb565 ⟨1, none⟩, .replyFailed 1,
    .connect, .register 2 3 2 2 .rgb565 ⟨2, none⟩, .activateClient 2, .setForeground 3 1 1 false, .disconnect 2,
    .setForeground 1 1 2 false]

/-- An application is shown before its registration is answered, and the answer fails. -/
def unanswered : List HostEvent := [.connect, .register 0 1 2 2 .rgb565 ⟨0, none⟩, .setForeground 1 1 1 false, .replyFailed 0]

/-- The panel refuses the frame of an application, so that the worker stops, and the application leaves. -/
def deserted : List HostEvent := shown ++ [.work 0 (some 1), .work 1 none, .disconnect 0]

end Sample

open DisplayHost Sample in
theorem leases_name_surfaces_shown :
    (orderly.foldl next (start (fun _ => tile) glass)).host.surfaceExists 1 = true := by
  have orderly : Runs.Along next Orderly (start (fun _ => tile) glass) orderly := by
    refine ⟨trivial, trivial, trivial, trivial, trivial, ?_, trivial, trivial, trivial, trivial, ?_, trivial, trivial⟩
    · rintro key registering ⟨-, lease, shown | prepared, rfl⟩
      · cases shown
      · cases prepared
    · intro key active _ entry lease _ _ clears
      have second : some (Connection.active 3) = some (.active key) := active
      cases second
      cases clears
      decide
  exact leases_name_surfaces (fun _ => tile) glass Sample.orderly orderly (by decide) ⟨1, 1, 2, false⟩ (.inl (by decide))

open DisplayHost Sample in
/-- A registration that is given up leaves its surface's lease behind, and so does a departure
    whose withdrawal the stopped worker does not take. -/
theorem leases_left_behind :
    (let s := unanswered.foldl next (start (fun _ => tile) glass);
      s.host.lock = none ∧ s.host.foreground = some ⟨1, 1, 1, false⟩ ∧ s.host.surfaceExists 1 = false) ∧
    (let s := deserted.foldl next (start (fun _ => tile) glass);
      s.host.lock = none ∧ s.host.foreground = some ⟨1, 1, 1, false⟩ ∧ s.host.surfaceExists 1 = false) := by
  constructor
  · exact ⟨by decide, by decide, by decide⟩
  · exact ⟨by decide, by decide, by decide⟩

end Remagic.Display
