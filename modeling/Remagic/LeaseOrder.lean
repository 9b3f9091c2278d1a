import Mathlib.Data.Prod.Lex
import Mathlib.Order.WithBot
import Remagic.InputMachine
import Remagic.PanelDamage
import Remagic.Runs

/-!
# The order of leases

Each surface's fence and the highest sleep epoch never fall, and what the host
newly accepts lies above them. A refused operation leaves its records alone; only
the refusal of a cleared foreground has withdrawn the prepared lease before.
-/

namespace Remagic.Display
open Fallible

def PanelLease.fence (lease : PanelLease) : ℕ ×ₗ ℕ := toLex (lease.generation, lease.foregroundEpoch)

/-- The fence of a surface key, below all fences before its first one. -/
def HostState.fence (s : HostState) (key : Int) : WithBot (ℕ ×ₗ ℕ) :=
  (s.fences key).elim ⊥ fun fence => ((toLex fence : ℕ ×ₗ ℕ) : WithBot (ℕ ×ₗ ℕ))

variable {lease : PanelLease}

namespace HostState
variable {s t : HostState}

/-- The fences and the sleep epochs that a step leaves behind are no older. -/
structure Onward (s t : HostState) : Prop where
  fences : ∀ key, s.fence key ≤ t.fence key
  sleeps : s.lastSleepEpoch ≤ t.lastSleepEpoch

theorem Onward.same (fences : t.fences = s.fences) (sleeps : t.lastSleepEpoch = s.lastSleepEpoch) : Onward s t := by
  refine ⟨fun key => ?_, sleeps.ge⟩
  unfold fence
  rw [fences]

theorem fence_committed {generation epoch : Nat} (same : lease.generation = generation)
    (same' : lease.foregroundEpoch = epoch)
    (fences : t.fences = Function.update s.fences lease.key (some (generation, epoch))) (key : Int) :
    t.fence key = if key = lease.key then ↑lease.fence else s.fence key := by
  unfold fence PanelLease.fence
  rw [fences, same, same']
  by_cases mine : key = lease.key
  · rw [mine, Function.update_self, if_pos rfl]
    rfl
  · rw [Function.update_of_ne mine, if_neg mine]

theorem Admits.above (admits : s.Admits lease) : s.fence lease.key < lease.fence := by
  unfold fence
  cases recorded : s.fences lease.key with
  | none => exact WithBot.bot_lt_coe _
  | some previous =>
    refine WithBot.coe_lt_coe.mpr (Prod.Lex.toLex_lt_toLex.mpr ?_)
    exact admits.newer previous.1 previous.2 recorded

theorem Onward.admitted (admits : s.Admits lease)
    (fences : t.fences = Function.update s.fences lease.key (some (lease.generation, lease.foregroundEpoch)))
    (sleeps : s.lastSleepEpoch ≤ t.lastSleepEpoch) : Onward s t := by
  refine ⟨fun key => ?_, sleeps⟩
  rw [fence_committed rfl rfl fences]
  split
  · rename_i mine
    rw [mine]
    exact admits.above.le
  · exact le_rfl

theorem Operated.onward {cancelled : Nat} (operated : Operated cancelled s t) : Onward s t := by
  cases operated with
  | switched lease fullRefresh unlocked admits =>
    obtain ⟨_, _, unmoved⟩ := fence_unmoved ((s.sent (.setForeground lease.panelLease fullRefresh)).commitForegroundFence
      lease.key lease.generation lease.epoch)
    exact .admitted admits unmoved.fences unmoved.lastSleepEpoch.ge
  | prepared lease unlocked admits =>
    obtain ⟨_, _, unmoved⟩ := fence_unmoved (s.commitForegroundFence lease.key lease.generation lease.epoch)
    exact .admitted admits unmoved.fences unmoved.lastSleepEpoch.ge
  | cleared lease unlocked shows =>
    obtain ⟨_, _, unmoved⟩ := fence_unmoved ({ s with preparedForeground := none }.sent (.clearForeground lease))
    exact .same unmoved.fences unmoved.lastSleepEpoch
  | locked lease sleepEpoch unlocked unprepared newer admits =>
    obtain ⟨_, _, unmoved⟩ := fence_unmoved
      { (s.sent (.showLock lease.panelLease sleepEpoch)).commitForegroundFence lease.key lease.generation lease.epoch with
        lastSleepEpoch := sleepEpoch }
    exact .admitted admits unmoved.fences (newer.le.trans unmoved.lastSleepEpoch.ge)
  | finished lock locked acknowledged =>
    obtain ⟨_, _, unmoved⟩ := fence_unmoved s
    exact .same unmoved.fences unmoved.lastSleepEpoch
  | _ => exact .same rfl rfl

theorem Departs.onward {client : Nat} {key : Int} (departs : Departs s client key t) : Onward s t := by
  have same : ∀ told, (s.departed key told).fences = s.fences ∧ (s.departed key told).lastSleepEpoch = s.lastSleepEpoch := by
    rintro (_ | _) <;> exact ⟨rfl, rfl⟩
  cases departs with
  | absent unregistered => exact .same rfl rfl
  | shared entry clients registered others kept => exact .same rfl rfl
  | hidden entry told registered last stays => exact .same (same told).1 (same told).2
  | stuck entry told lease registered last clears =>
    obtain ⟨_, _, unmoved⟩ := fence_unmoved (s.departed key told)
    exact .same (unmoved.fences.trans (same told).1) (unmoved.lastSleepEpoch.trans (same told).2)
  | cleared entry told lease registered last clears =>
    obtain ⟨_, _, first⟩ := fence_unmoved (s.departed key told)
    obtain ⟨_, _, second⟩ := fence_unmoved ((s.departed key told).fenceInputContacts.sent (.clearForeground lease))
    have unmoved := first.trans ((sent_unmoved (.clearForeground lease)).trans second)
    exact .same (unmoved.fences.trans (same told).1) (unmoved.lastSleepEpoch.trans (same told).2)

theorem abortRegistration_onward (key : Int) : Onward s (s.abortRegistration key) := by
  rcases abortRegistration_spec (s := s) key with same | ⟨entry, _, _, same | same⟩
  · rw [same]
    exact .same rfl rfl
  · rw [same]
    exact .same rfl rfl
  · rw [same]
    exact .same rfl rfl

end HostState

theorem stepped_onward {s t : InputState} {event : HostEvent} (stepped : Stepped s event t) : s.host.Onward t.host := by
  have dispatched : ∀ captured, s.host.Onward (s.host.dispatchCapturedInput s.committed captured).2 := by
    intro captured
    obtain ⟨_, _, unmoved, _⟩ := HostState.dispatch_frame (s := s.host) s.committed captured
    exact .same unmoved.fences unmoved.lastSleepEpoch
  cases stepped with
  | aborted client key registering =>
    have onward := HostState.abortRegistration_onward (s := s.host) key
    exact ⟨onward.fences, onward.sleeps⟩
  | left client key host active departs =>
    have onward := departs.onward
    exact ⟨onward.fences, onward.sleeps⟩
  | operated cancelled host operated => exact operated.onward
  | finished sleepEpoch =>
    obtain ⟨_, _, unmoved⟩ := HostState.fence_unmoved s.host
    exact .same unmoved.fences unmoved.lastSleepEpoch
  | dispatchedPen captured rest queue => exact dispatched captured
  | dispatchedTouch captured rest queue => exact dispatched captured
  | injected epoch frame => exact dispatched _
  | _ => exact .same rfl rfl

/-! ## What is accepted -/

namespace DisplayHost
variable {s : DisplayHost} {event : HostEvent} {later : List HostEvent}

/-- The call gets the operations' lock and succeeds. -/
def succeeds {α : Type} (s : DisplayHost) (operation : Hosted α) : Bool :=
  s.foregroundOps.isNone && (operation.run s.host).1.isOk

/-- The lease that an accepted `set_foreground`, `prepare_foreground` or `show_lock`
    gives to the surface key. -/
def accepts (key : Int) (s : DisplayHost) : HostEvent → Option PanelLease
  | .setForeground key' generation epoch fullRefresh =>
    if key' = key ∧ s.succeeds (HostState.setForeground key' generation epoch fullRefresh) then
      some ⟨key', generation, epoch⟩
    else none
  | .prepareForeground key' generation epoch =>
    if key' = key ∧ s.succeeds (HostState.prepareForeground key' generation epoch) then some ⟨key', generation, epoch⟩
    else none
  | .showLock key' generation epoch sleepEpoch =>
    if key' = key ∧ s.succeeds (HostState.showLock key' generation epoch sleepEpoch) then some ⟨key', generation, epoch⟩
    else none
  | _ => none

/-- The sleep epoch of an accepted `show_lock`. -/
def acceptsSleep (s : DisplayHost) : HostEvent → Option Nat
  | .showLock key generation epoch sleepEpoch =>
    if s.succeeds (HostState.showLock key generation epoch sleepEpoch) then some sleepEpoch else none
  | _ => none

/-- `show_lock` is called while the display is locked. -/
def locksAgain (s : DisplayHost) : HostEvent → Bool
  | .showLock _ _ _ _ => s.host.lock.isSome
  | _ => false

/-- What is accepted, apart from a lock that is shown already. -/
def newlyAccepts (key : Int) (s : DisplayHost) (event : HostEvent) : Option PanelLease :=
  if s.locksAgain event then none else s.accepts key event

def newlyAcceptsSleep (s : DisplayHost) (event : HostEvent) : Option Nat :=
  if s.locksAgain event then none else s.acceptsSleep event

theorem succeeds_spec {α : Type} {operation : Hosted α} {post : α → HostState → Prop}
    (spec : AllOrNothing s.host operation s.host post) (succeeds : s.succeeds operation = true) :
    s.foregroundOps = none ∧ ∃ result, post result (operation.run s.host).2 := by
  unfold DisplayHost.succeeds at succeeds
  obtain ⟨free, ok⟩ := (Bool.and_eq_true _ _).mp succeeds
  refine ⟨Option.isNone_iff_eq_none.mp free, ?_⟩
  cases ended : (operation.run s.host).1 with
  | error error =>
    rw [ended] at ok
    cases ok
  | ok result => exact ⟨result, spec.accepted ended⟩

theorem exclusively_perform {α : Type} {operation : Hosted α} (free : s.foregroundOps = none) :
    (s.exclusively fun s => (s.perform operation).2).host = (operation.run s.host).2 := by
  unfold exclusively
  rw [free]
  rfl

/-- What is newly accepted is above the surface's fence and becomes it. -/
theorem newlyAccepts_spec {key : Int} (accepted : newlyAccepts key s event = some lease) :
    s.host.fence key < lease.fence ∧ (s.next event).host.fence key = lease.fence := by
  have committed : ∀ {t : HostState}, s.host.Admits lease → lease.key = key →
      t.fences = Function.update s.host.fences lease.key (some (lease.generation, lease.foregroundEpoch)) →
      s.host.fence key < lease.fence ∧ t.fence key = lease.fence := by
    intro t admits mine fences
    rw [HostState.fence_committed rfl rfl fences, if_pos mine.symm, ← mine]
    exact ⟨admits.above, rfl⟩
  unfold newlyAccepts at accepted
  split at accepted
  · cases accepted
  rename_i fresh
  cases event with
  | setForeground key' generation epoch fullRefresh =>
    obtain ⟨⟨mine, succeeds⟩, same⟩ := Option.ite_none_right_eq_some.mp accepted
    obtain ⟨free, _, _, admits, after⟩ := succeeds_spec (HostState.setForeground_spec _ _ _ _) succeeds
    obtain ⟨_, _, unmoved⟩ := HostState.fence_unmoved ((s.host.sent (.setForeground ⟨key', generation, epoch⟩
      fullRefresh)).commitForegroundFence key' generation epoch)
    cases Option.some.inj same
    refine committed admits mine ?_
    show (s.exclusively fun s => (s.perform _).2).host.fences = _
    rw [exclusively_perform free, after]
    exact unmoved.fences
  | prepareForeground key' generation epoch =>
    obtain ⟨⟨mine, succeeds⟩, same⟩ := Option.ite_none_right_eq_some.mp accepted
    obtain ⟨free, _, _, admits, after⟩ := succeeds_spec (HostState.prepareForeground_spec _ _ _) succeeds
    obtain ⟨_, _, unmoved⟩ := HostState.fence_unmoved (s.host.commitForegroundFence key' generation epoch)
    cases Option.some.inj same
    refine committed admits mine ?_
    show (s.exclusively fun s => (s.perform _).2).host.fences = _
    rw [exclusively_perform free, after]
    exact unmoved.fences
  | showLock key' generation epoch sleepEpoch =>
    obtain ⟨⟨mine, succeeds⟩, same⟩ := Option.ite_none_right_eq_some.mp accepted
    obtain ⟨free, _, again | ⟨_, _, _, admits, after⟩⟩ := succeeds_spec (HostState.showLock_spec _ _ _ _) succeeds
    · obtain ⟨lock, held, _⟩ := again
      simp [locksAgain, held] at fresh
    obtain ⟨_, _, unmoved⟩ := HostState.fence_unmoved
      { (s.host.sent (.showLock ⟨key', generation, epoch⟩ sleepEpoch)).commitForegroundFence key' generation epoch with
        lastSleepEpoch := sleepEpoch }
    cases Option.some.inj same
    refine committed admits mine ?_
    show (s.exclusively fun s => (s.perform _).2).host.fences = _
    rw [exclusively_perform free, after]
    exact unmoved.fences
  | _ => cases accepted

theorem newlyAcceptsSleep_spec {sleepEpoch : Nat} (accepted : newlyAcceptsSleep s event = some sleepEpoch) :
    s.host.lastSleepEpoch < sleepEpoch ∧ (s.next event).host.lastSleepEpoch = sleepEpoch := by
  unfold newlyAcceptsSleep at accepted
  split at accepted
  · cases accepted
  rename_i fresh
  cases event with
  | showLock key generation epoch sleepEpoch' =>
    obtain ⟨succeeds, same⟩ := Option.ite_none_right_eq_some.mp accepted
    obtain ⟨free, _, again | ⟨_, _, newer, _, after⟩⟩ := succeeds_spec (HostState.showLock_spec _ _ _ _) succeeds
    · obtain ⟨lock, held, _⟩ := again
      simp [locksAgain, held] at fresh
    obtain ⟨_, _, unmoved⟩ := HostState.fence_unmoved
      { (s.host.sent (.showLock ⟨key, generation, epoch⟩ sleepEpoch')).commitForegroundFence key generation epoch with
        lastSleepEpoch := sleepEpoch' }
    cases Option.some.inj same
    refine ⟨newer, ?_⟩
    show (s.exclusively fun s => (s.perform _).2).host.lastSleepEpoch = _
    rw [exclusively_perform free, after]
    exact unmoved.lastSleepEpoch
  | _ => cases accepted

/-! ## What is refused -/

/-- The operation that an event calls, until it ends or waits for the panel. -/
def operation (s : DisplayHost) : HostEvent → Option (Hosted Unit)
  | .register _ key width height format creation =>
    some ((fun _ => ()) <$> HostState.register s.shm key width height format creation)
  | .activateClient client =>
    match s.connections[client]? with
    | some (.registering key) => some (HostState.activateClient key client)
    | _ => none
  | .damage client rect => do
    let key ← s.keyOf client
    let entry ← s.host.surfaces key
    let surface := s.shm entry.shmKey
    some ((fun _ => ()) <$> HostState.damage key (rect.getD surface.fullRect) (damageIntent surface))
  | .requestSurfaceFullRefresh client => (s.keyOf client).map HostState.requestSurfaceFullRefresh
  | .setForeground key generation epoch fullRefresh => some (HostState.setForeground key generation epoch fullRefresh)
  | .prepareForeground key generation epoch => some (HostState.prepareForeground key generation epoch)
  | .activateForeground key generation epoch inkEnabled fullRefresh =>
    some (HostState.activateForeground key generation epoch inkEnabled fullRefresh)
  | .clearForeground => some HostState.clearForeground
  | .configureInk key generation epoch enabled region =>
    some ((fun _ => ()) <$> HostState.configureInk key generation epoch enabled region)
  | .requestFullRefresh => some HostState.requestFullRefresh
  | .showLock key generation epoch sleepEpoch => some (HostState.showLock key generation epoch sleepEpoch)
  | .refreshLock sleepEpoch => some (HostState.refreshLock sleepEpoch)
  | .cancelLock sleepEpoch replacementSurfaceSequence =>
    some ((fun _ => ()) <$> HostState.cancelLock s.shm s.worker.telemetry sleepEpoch replacementSurfaceSequence)
  | _ => none

theorem mapped_refused {α : Type} {m : Hosted α} {h : HostState} {post : α → HostState → Prop}
    (spec : AllOrNothing h m h post) {error : IoError}
    (failed : (((fun _ => ()) <$> m : Hosted Unit).run h).1 = .error error) :
    (((fun _ => ()) <$> m : Hosted Unit).run h).2 = h :=
  (allOrNothing_map (spec.weaken fun _ _ _ => trivial) : AllOrNothing h _ h fun _ _ => True).refused failed

/-- A refused operation leaves the recorded fences, the foreground and the lock alone,
    and the prepared lease too unless the operation was to clear the foreground. -/
theorem operation_refused {operation : Hosted Unit} (called : s.operation event = some operation) {error : IoError}
    (failed : (operation.run s.host).1 = .error error) :
    let t := (operation.run s.host).2
    t.fences = s.host.fences ∧ t.foreground = s.host.foreground ∧ t.lock = s.host.lock ∧
      (event ≠ .clearForeground → t.preparedForeground = s.host.preparedForeground) := by
  have unchanged : ∀ {t : HostState}, t = s.host → t.fences = s.host.fences ∧ t.foreground = s.host.foreground ∧
      t.lock = s.host.lock ∧ (event ≠ .clearForeground → t.preparedForeground = s.host.preparedForeground) := by
    rintro t rfl
    exact ⟨rfl, rfl, rfl, fun _ => rfl⟩
  cases event with
  | register client key width height format creation =>
    cases called
    have spec := HostState.register_spec (s := s.host) s.shm key width height format creation
    unfold Ends at spec
    rw [map_eq_pure_bind, run_bind] at failed ⊢
    rcases run : (HostState.register s.shm key width height format creation).run s.host with ⟨result, host⟩
    rw [run] at spec failed
    rcases spec with ⟨error', next, rfl, rfl⟩ | ⟨shmKey, surface, next, _, rfl, _⟩
    · exact ⟨rfl, rfl, rfl, fun _ => rfl⟩
    · cases failed
  | activateClient client =>
    simp only [DisplayHost.operation] at called
    split at called
    · cases called
      exact unchanged ((HostState.activateClient_spec _ _).refused failed)
    · cases called
  | damage client rect =>
    obtain ⟨key, _, entry⟩ := Option.bind_eq_some_iff.mp called
    obtain ⟨entry, _, called⟩ := Option.bind_eq_some_iff.mp entry
    cases called
    exact unchanged (mapped_refused (HostState.damage_refused _ _ _) failed)
  | requestSurfaceFullRefresh client =>
    obtain ⟨key, _, rfl⟩ := Option.map_eq_some_iff.mp called
    have spec : AllOrNothing s.host _ s.host fun _ t => HostState.Operated 0 s.host t :=
      HostState.requestSurfaceFullRefresh_spec key
    exact unchanged (spec.refused failed)
  | setForeground key generation epoch fullRefresh =>
    cases called
    exact unchanged ((HostState.setForeground_spec _ _ _ _).refused failed)
  | prepareForeground key generation epoch =>
    cases called
    exact unchanged ((HostState.prepareForeground_spec _ _ _).refused failed)
  | activateForeground key generation epoch inkEnabled fullRefresh =>
    cases called
    exact unchanged ((HostState.activateForeground_spec _ _ _ _ _).refused failed)
  | clearForeground =>
    cases called
    rcases HostState.clearForeground_refused (s := s.host) error failed with same | same
    · exact unchanged same
    · rw [same]
      exact ⟨rfl, rfl, rfl, fun other => absurd rfl other⟩
  | configureInk key generation epoch enabled region =>
    cases called
    exact unchanged (mapped_refused (HostState.configureInk_spec _ _ _ _ _) failed)
  | requestFullRefresh =>
    cases called
    have spec : AllOrNothing s.host _ s.host fun _ t => HostState.Operated 0 s.host t :=
      HostState.requestFullRefresh_spec
    exact unchanged (spec.refused failed)
  | showLock key generation epoch sleepEpoch =>
    cases called
    exact unchanged ((HostState.showLock_spec _ _ _ _).refused failed)
  | refreshLock sleepEpoch =>
    cases called
    have spec : AllOrNothing s.host _ s.host fun _ t => HostState.Operated 0 s.host t :=
      HostState.refreshLock_spec sleepEpoch
    exact unchanged (spec.refused failed)
  | cancelLock sleepEpoch sequence =>
    cases called
    exact unchanged (mapped_refused (HostState.cancelLock_spec _ _ _ _) failed)
  | _ => cases called

/-! ## What times out -/

/-- The records that a refusal has to leave alone. -/
structure Kept (s t : DisplayHost) : Prop where
  fences : t.host.fences = s.host.fences
  foreground : t.host.foreground = s.host.foreground
  prepared : t.host.preparedForeground = s.host.preparedForeground
  lock : t.host.lock = s.host.lock

theorem Kept.refl (s : DisplayHost) : Kept s s := ⟨rfl, rfl, rfl, rfl⟩

theorem Kept.trans {a b c : DisplayHost} (first : Kept a b) (second : Kept b c) : Kept a c :=
  ⟨second.fences.trans first.fences, second.foreground.trans first.foreground, second.prepared.trans first.prepared,
    second.lock.trans first.lock⟩

theorem abort_kept (client : Nat) (key : Int) : Kept s (s.abort client key) := by
  have host : (s.abort client key).host = { s.host.abortRegistration key with
      queues := (s.abort client key).host.queues } := rfl
  rcases HostState.abortRegistration_spec (s := s.host) key with same | ⟨entry, _, _, same | same⟩
  · rw [same] at host
    exact ⟨by rw [host], by rw [host], by rw [host], by rw [host]⟩
  · rw [same] at host
    exact ⟨by rw [host]; rfl, by rw [host]; rfl, by rw [host]; rfl, by rw [host]; rfl⟩
  · rw [same] at host
    exact ⟨by rw [host]; rfl, by rw [host]; rfl, by rw [host]; rfl, by rw [host]; rfl⟩

theorem register_kept (client : Nat) (key width height : Int) (format : PixelFormat) (creation : Creation) :
    Kept s (s.register client key width height format creation) := by
  unfold register perform
  split
  · exact .refl s
  have spec := HostState.register_spec (s := s.host) s.shm key width height format creation
  unfold Ends at spec
  rcases run : (HostState.register s.shm key width height format creation).run s.host with ⟨result, host⟩
  rw [run] at spec
  rcases spec with ⟨error, next, rfl, rfl⟩ | ⟨shmKey, surface, next, _, rfl, rfl⟩
  · exact ⟨rfl, rfl, rfl, rfl⟩
  · exact ⟨rfl, rfl, rfl, rfl⟩

theorem activateClient_kept (client : Nat) : Kept s (s.activateClient client) := by
  unfold activateClient perform
  split
  · rename_i key registering
    rcases (HostState.activateClient_spec (s := s.host) key client).cases with
      ⟨error, failed⟩ | ⟨result, after, ended, entry, held, _, rfl⟩
    · simp only [failed]
      exact abort_kept client key
    · simp only [ended]
      exact ⟨rfl, rfl, rfl, rfl⟩
  · exact .refl s

theorem updateSurface_kept (key : Int) (edit : SharedSurface → SharedSurface) : Kept s (s.updateSurface key edit) := by
  unfold updateSurface
  split <;> exact ⟨rfl, rfl, rfl, rfl⟩

theorem withKey_kept {client : Nat} {step : DisplayHost → Int → DisplayHost} (keyed : ∀ key, Kept s (step s key)) :
    Kept s (s.withKey client step) := by
  unfold withKey
  split
  · exact .refl s
  · exact keyed _

theorem whileRunning_kept {step : DisplayHost → DisplayHost} (runs : Kept s (step s)) : Kept s (s.whileRunning step) := by
  unfold whileRunning
  split
  · exact runs
  · exact .refl s

theorem work_kept (now : Int) (marker : Option Nat) : Kept s (s.work now marker) := by
  unfold work
  split
  · exact .refl s
  · simp only
    split
    · exact ⟨rfl, rfl, rfl, rfl⟩
    · split
      · exact ⟨rfl, rfl, rfl, rfl⟩
      · split <;> exact ⟨rfl, rfl, rfl, rfl⟩

theorem flush_kept (outcome : Outcome) : Kept s (s.flush outcome) := by
  unfold flush
  split <;> exact ⟨rfl, rfl, rfl, rfl⟩

/-- While an operation waits with the operations' lock, nothing else touches the records. -/
theorem waiting_kept (waits : s.foregroundOps.isSome = true) (still : (s.next event).foregroundOps.isSome = true) :
    Kept s (s.next event) := by
  have excluded : ∀ step, s.exclusively step = s := by
    intro step
    unfold exclusively
    rw [if_pos waits]
  cases event with
  | connect => exact ⟨rfl, rfl, rfl, rfl⟩
  | register client key width height format creation => exact register_kept client key width height format creation
  | activateClient client => exact activateClient_kept client
  | replyFailed client =>
    simp only [next, replyFailed]
    split
    · exact abort_kept client _
    · exact .refl s
  | draw shmKey bytes => exact ⟨rfl, rfl, rfl, rfl⟩
  | markCommit client =>
    simp only [next]
    exact withKey_kept fun key => updateSurface_kept key _
  | damage client rect =>
    simp only [next]
    refine withKey_kept fun key => ?_
    rw [excluded]
    exact .refl s
  | setRefreshMode client mode =>
    simp only [next]
    exact withKey_kept fun key => updateSurface_kept key _
  | requestSurfaceFullRefresh client =>
    simp only [next]
    refine withKey_kept fun key => ?_
    rw [excluded]
    exact .refl s
  | disconnect client =>
    simp only [next, disconnect]
    split
    · exact ⟨rfl, rfl, rfl, rfl⟩
    · rw [excluded]
      exact .refl s
    · exact .refl s
  | receive client => exact ⟨rfl, rfl, rfl, rfl⟩
  | acknowledged =>
    -- The operation that is acknowledged waits no more.
    simp only [next, acknowledged] at still ⊢
    split
    · split
      · rename_i waiting acknowledged
        simp only [waiting, acknowledged, if_true] at still
        cases still
      · exact .refl s
    · split <;> exact ⟨rfl, rfl, rfl, rfl⟩
    · exact .refl s
  | timedOut => exact ⟨rfl, rfl, rfl, rfl⟩
  | shutdown =>
    rcases HostState.offerPanel_spec (s := { s.host with shutdown := true }) .shutdown with refused | accepted
    · simp only [next, refused]
      exact ⟨rfl, rfl, rfl, rfl⟩
    · simp only [next, accepted]
      exact ⟨rfl, rfl, rfl, rfl⟩
  | capture frame =>
    simp only [next, capture]
    split <;> exact ⟨rfl, rfl, rfl, rfl⟩
  | work now marker =>
    simp only [next]
    exact whileRunning_kept (work_kept now marker)
  | flushDeferred now marker =>
    simp only [next]
    exact whileRunning_kept (flush_kept _)
  | flushDeadlines now marker =>
    simp only [next]
    exact whileRunning_kept (flush_kept _)
  | _ =>
    simp only [next, excluded]
    exact .refl s

/-- The event begins an operation that waits for the panel until it times out. -/
def Lapses (s : DisplayHost) (event : HostEvent) (later : List HostEvent) : Prop :=
  s.foregroundOps = none ∧
    Runs.Along next (fun t _ => t.foregroundOps.isSome = true) (s.next event) (later ++ [.timedOut])

/-- The state in which the operation times out. -/
def timeout (s : DisplayHost) (event : HostEvent) (later : List HostEvent) : DisplayHost :=
  (later ++ [HostEvent.timedOut]).foldl next (s.next event)

theorem lapses_begun (lapses : s.Lapses event later) : (s.next event).foregroundOps.isSome = true := by
  have along := lapses.2
  cases later with
  | nil => exact along.1
  | cons first rest => exact along.1

theorem lapses_kept (lapses : s.Lapses event later) : Kept (s.next event) (s.timeout event later) := by
  obtain ⟨_, along⟩ := lapses
  unfold timeout
  generalize s.next event = t at along
  induction later generalizing t with
  | nil => exact ⟨rfl, rfl, rfl, rfl⟩
  | cons first rest ih =>
    have still : (t.next first).foregroundOps.isSome = true := by
      cases rest with
      | nil => exact along.2.1
      | cons second others => exact along.2.1
    exact (waiting_kept along.1 still).trans (ih (t.next first) along.2)

theorem begin_error (operation : DisplayHost → Hosted (Option HostState.Waiting)) (free : s.foregroundOps = none)
    {error : IoError} {host : HostState} (run : (operation s).run s.host = (.error error, host)) :
    (s.exclusively fun s => s.begin (operation s)).foregroundOps = none := by
  simp only [exclusively, begin, perform, free, run, Option.isSome_none, Bool.false_eq_true, if_false]

theorem begin_ok (operation : DisplayHost → Hosted (Option HostState.Waiting)) (free : s.foregroundOps = none)
    {waiting : Option HostState.Waiting} {host : HostState} (run : (operation s).run s.host = (.ok waiting, host)) :
    (s.exclusively fun s => s.begin (operation s)) = { s with host := host, foregroundOps := waiting } := by
  simp only [exclusively, begin, perform, free, run, Option.isSome_none, Bool.false_eq_true, if_false]

/-- The ink policy that the panel does not acknowledge stays recorded. -/
theorem configureInk_timedOut {key : Int} {generation epoch : Nat} {enabled : Bool} {region : Option Rect}
    (lapses : s.Lapses (.configureInk key generation epoch enabled region) later) :
    let t := (s.timeout (.configureInk key generation epoch enabled region) later).host
    t.fences = s.host.fences ∧ t.preparedForeground = s.host.preparedForeground ∧ t.lock = s.host.lock ∧
      t.requested = s.host.requested := by
  have kept := lapses_kept lapses
  have begun := lapses_begun lapses
  rcases (HostState.configureInk_spec (s := s.host) key generation epoch enabled region).cases with
    ⟨error, failed⟩ | ⟨waiting, after, ended, _, foreground, shows, _, same⟩
  · have run : (some <$> HostState.configureInk key generation epoch enabled region).run s.host =
        (.error error, s.host) := by
      rw [map_eq_pure_bind, run_bind, failed]
    have none : (s.next (.configureInk key generation epoch enabled region)).foregroundOps = none :=
      begin_error (fun _ => some <$> HostState.configureInk key generation epoch enabled region) lapses.1 run
    rw [none] at begun
    cases begun
  · have run : (some <$> HostState.configureInk key generation epoch enabled region).run s.host =
        (.ok (some waiting), after) := by
      rw [map_eq_pure_bind, run_bind, ended]
      rfl
    have next : s.next (.configureInk key generation epoch enabled region) = _ :=
      begin_ok (fun _ => some <$> HostState.configureInk key generation epoch enabled region) lapses.1 run
    rw [next, same] at kept
    refine ⟨kept.fences, kept.prepared, kept.lock, ?_⟩
    unfold HostState.requested
    rw [kept.foreground, shows]
    rfl

theorem cancelLock_timedOut {sleepEpoch sequence : Nat} (lapses : s.Lapses (.cancelLock sleepEpoch sequence) later) :
    Kept s (s.timeout (.cancelLock sleepEpoch sequence) later) := by
  refine Kept.trans ?_ (lapses_kept lapses)
  have begun := lapses_begun lapses
  have spec := HostState.cancelLock_waits (s := s.host) s.shm s.worker.telemetry sleepEpoch sequence
  unfold Ends at spec
  rcases run : (HostState.cancelLock s.shm s.worker.telemetry sleepEpoch sequence).run s.host with ⟨result, host⟩
  rw [run] at spec
  cases result with
  | error error =>
    have none : (s.next (.cancelLock sleepEpoch sequence)).foregroundOps = none :=
      begin_error (fun s => HostState.cancelLock s.shm s.worker.telemetry sleepEpoch sequence) lapses.1 run
    rw [none] at begun
    cases begun
  | ok waiting =>
    have next : s.next (.cancelLock sleepEpoch sequence) = _ :=
      begin_ok (fun s => HostState.cancelLock s.shm s.worker.telemetry sleepEpoch sequence) lapses.1 run
    rw [next] at begun ⊢
    obtain ⟨waiting, rfl⟩ := Option.isSome_iff_exists.mp begun
    obtain ⟨lock, _, _, rfl⟩ := spec waiting rfl
    exact ⟨rfl, rfl, rfl, rfl⟩

end DisplayHost

/-! ## Runs -/

open DisplayHost in
/-- In every run the leases newly accepted for a surface key have strictly increasing
    fences, and the sleep epochs newly accepted strictly increase; a lock accepted while
    the display is locked is the one that is shown, and changes nothing; a foreground is
    activated only with exactly the prepared lease; a refused operation leaves the
    fences, the foreground and the lock alone, and the prepared lease too unless it was
    to clear the foreground; and one that times out leaves all of them alone, apart from
    the ink policy that it asked the panel for. -/
theorem leases_strictly_ordered (shm : Nat → SharedSurface) (backend : PanelBackend) (events : List HostEvent) :
    let s := events.foldl next (start shm backend)
    (∀ key, (Runs.answers next (newlyAccepts key) (start shm backend) events).Pairwise fun earlier lease =>
      earlier.fence < lease.fence) ∧
    (Runs.answers next newlyAcceptsSleep (start shm backend) events).Pairwise (· < ·) ∧
    (∀ key generation epoch sleepEpoch, s.host.lock.isSome = true →
      s.succeeds (HostState.showLock key generation epoch sleepEpoch) = true →
      (s.host.lock.map fun lock => (lock.foreground.panelLease, lock.sleepEpoch)) =
        some (⟨key, generation, epoch⟩, sleepEpoch) ∧
      (s.next (.showLock key generation epoch sleepEpoch)).host = s.host) ∧
    (∀ key generation epoch inkEnabled fullRefresh,
      s.succeeds (HostState.activateForeground key generation epoch inkEnabled fullRefresh) = true →
      s.host.preparedForeground.map ForegroundLease.panelLease = some ⟨key, generation, epoch⟩) ∧
    (∀ event operation error, s.operation event = some operation → (operation.run s.host).1 = .error error →
      (operation.run s.host).2.fences = s.host.fences ∧ (operation.run s.host).2.foreground = s.host.foreground ∧
      (operation.run s.host).2.lock = s.host.lock ∧
      (event ≠ .clearForeground → (operation.run s.host).2.preparedForeground = s.host.preparedForeground)) ∧
    (∀ key generation epoch enabled region later, s.Lapses (.configureInk key generation epoch enabled region) later →
      let t := (s.timeout (.configureInk key generation epoch enabled region) later).host
      t.fences = s.host.fences ∧ t.preparedForeground = s.host.preparedForeground ∧ t.lock = s.host.lock ∧
        t.requested = s.host.requested) ∧
    ∀ sleepEpoch sequence later, s.Lapses (.cancelLock sleepEpoch sequence) later →
      Kept s (s.timeout (.cancelLock sleepEpoch sequence) later) := by
  intro s
  have onward : ∀ (s : DisplayHost) (event : HostEvent), s.host.Onward (s.next event).host := fun s event =>
    stepped_onward (next_stepped s event)
  refine ⟨fun key => ?_, ?_, fun key generation epoch sleepEpoch locked succeeds => ?_,
    fun key generation epoch inkEnabled fullRefresh succeeds => ?_,
    fun event operation error called failed => operation_refused called failed,
    fun _ _ _ _ _ _ lapses => configureInk_timedOut lapses, fun _ _ _ lapses => cancelLock_timedOut lapses⟩
  · have increase : (Runs.answers next (newlyAccepts key) (start shm backend) events).Pairwise fun earlier lease =>
        (earlier.fence : WithBot (ℕ ×ₗ ℕ)) < lease.fence :=
      Runs.answers_increase (fun s : DisplayHost => s.host.fence key) (fun lease => lease.fence) (fun _ => True)
        (fun _ _ _ => trivial) (fun s event _ => (onward s event).fences key)
        (fun s event lease _ accepted => (newlyAccepts_spec accepted).1)
        (fun s event lease _ accepted => (newlyAccepts_spec accepted).2.ge) events _ trivial
    exact increase.imp fun newer => WithBot.coe_lt_coe.mp newer
  · exact Runs.answers_increase (fun s : DisplayHost => s.host.lastSleepEpoch) id (fun _ => True)
      (fun _ _ _ => trivial) (fun s event _ => (onward s event).sleeps)
      (fun s event sleepEpoch _ accepted => (newlyAcceptsSleep_spec accepted).1)
      (fun s event sleepEpoch _ accepted => (newlyAcceptsSleep_spec accepted).2.ge) events _ trivial
  · obtain ⟨free, _, again | ⟨unlocked, _⟩⟩ := succeeds_spec (HostState.showLock_spec _ _ _ _) succeeds
    · obtain ⟨lock, held, sameEpoch, sameLease, after⟩ := again
      refine ⟨?_, ?_⟩
      · rw [held, Option.map_some, sameEpoch, sameLease]
      · show (s.exclusively fun s => (s.perform _).2).host = _
        rw [exclusively_perform free, after]
    · rw [unlocked] at locked
      cases locked
  · obtain ⟨_, _, _, lease, prepared, same, _⟩ := succeeds_spec (HostState.activateForeground_spec _ _ _ _ _) succeeds
    rw [prepared, Option.map_some, same]

namespace Sample

/-- The display is locked twice with one lease and one sleep epoch. -/
def lockedTwice : List HostEvent :=
  [.connect, .register 0 1 2 2 .rgb565 ⟨0, none⟩, .activateClient 0, .showLock 1 1 1 1, .showLock 1 1 1 1]

/-- An application is shown and another lease prepared, and then the panel's thread ends. -/
def abandoned : List HostEvent :=
  [.connect, .register 0 1 2 2 .rgb565 ⟨0, none⟩, .activateClient 0, .setForeground 1 1 1 false,
    .prepareForeground 1 1 2, .shutdown, .work 0 none, .work 1 (some 1), .work 2 none]

/-- An application is shown. -/
def shown : List HostEvent :=
  [.connect, .register 0 1 2 2 .rgb565 ⟨0, none⟩, .activateClient 0, .setForeground 1 1 1 false]

end Sample

open DisplayHost Sample in
/-- A lock repeated is accepted again, a clearing that the panel refuses has withdrawn the
    prepared lease, and an ink policy that is not acknowledged stays with the foreground. -/
theorem leases_repeated_and_withdrawn :
    (¬ ∀ (shm : Nat → SharedSurface) (backend : PanelBackend) (events : List HostEvent) (key : Int),
      (Runs.answers next (accepts key) (start shm backend) events).Pairwise fun earlier lease =>
        earlier.fence < lease.fence) ∧
    (¬ ∀ (shm : Nat → SharedSurface) (backend : PanelBackend) (events : List HostEvent) (event : HostEvent)
      (operation : Hosted Unit) (error : IoError),
      let s := events.foldl next (start shm backend)
      s.operation event = some operation → (operation.run s.host).1 = .error error →
        (operation.run s.host).2.preparedForeground = s.host.preparedForeground) ∧
    ¬ ∀ (shm : Nat → SharedSurface) (backend : PanelBackend) (events later : List HostEvent) (event : HostEvent),
      let s := events.foldl next (start shm backend)
      s.Lapses event later → (s.timeout event later).host.foreground = s.host.foreground := by
  refine ⟨fun ordered => ?_, fun kept => ?_, fun kept => ?_⟩
  · have twice : Runs.answers next (accepts 1) (start (fun _ => tile) glass) lockedTwice = [⟨1, 1, 1⟩, ⟨1, 1, 1⟩] := by
      decide
    have ordered := ordered (fun _ => tile) glass lockedTwice 1
    rw [twice] at ordered
    exact absurd (List.rel_of_pairwise_cons ordered (List.mem_singleton.mpr rfl)) (lt_irrefl _)
  · have same := kept (fun _ => tile) glass abandoned .clearForeground HostState.clearForeground
      ⟨.brokenPipe, "panel thread stopped"⟩ rfl (by decide)
    exact absurd same (by decide)
  · have same := kept (fun _ => tile) glass shown [] (.configureInk 1 1 1 true none)
      ⟨by decide, by decide, trivial⟩
    exact absurd same (by decide)

end Remagic.Display
