import Remagic.HostSpecs
import Remagic.PanelDamage
import Remagic.PanelEffects

/-!
# The lock screen

While the host's display is locked, the worker's queue holds the command that
shows the lock and then only commands that a lock ignores, or the lock has been
shown, or it is over. From this it follows that a worker which holds a lock
shows the lock's lease and keeps its framebuffer, until a cancellation has
submitted the replacement frame.
-/

namespace Remagic.Display
open PanelRuntime

def PanelCommand.locks : PanelCommand → Bool
  | .showLock _ _ => true
  | _ => false

variable {command : PanelCommand}

theorem PanelCommand.locks_of_harmless (harmless : command.harmless = true) : command.locks = false := by
  cases command <;> first | rfl | cases harmless

/-- How far the worker is with the host's lock: the command still waits, the lock
    has been shown, or it was cancelled or refused. -/
inductive LockPhase (p : PanelRuntime) (commands : List PanelCommand) (lock : LockLease) : Prop
  | queued (before after : List PanelCommand)
      (waits : commands = before ++ .showLock lock.foreground.panelLease lock.sleepEpoch :: after)
      (first : ∀ command ∈ before, command.locks = false) (quiet : ∀ command ∈ after, command.harmless = true)
      (unheld : p.lock = none) (uncancelled : p.telemetry.cancelledLockEpoch ≠ lock.sleepEpoch)
  | shown (sequence : Nat) (quiet : ∀ command ∈ commands, command.harmless = true)
      (frozen : Frozen p ⟨lock.sleepEpoch, lock.foreground.panelLease, sequence⟩)
      (uncancelled : p.telemetry.cancelledLockEpoch ≠ lock.sleepEpoch)
  | ended (quiet : ∀ command ∈ commands, command.harmless = true) (unheld : p.lock = none)

section
variable {p : PanelRuntime} {commands : List PanelCommand} {lock : LockLease}

theorem LockPhase.append (phase : LockPhase p commands lock) {more : List PanelCommand}
    (harmless : ∀ command ∈ more, command.harmless = true) : LockPhase p (commands ++ more) lock := by
  cases phase with
  | queued before after waits first quiet unheld uncancelled =>
    refine .queued before (after ++ more) (by rw [waits, List.append_assoc, List.cons_append]) first ?_ unheld uncancelled
    intro command member
    exact (List.mem_append.mp member).elim (quiet command) (harmless command)
  | shown sequence quiet frozen uncancelled =>
    refine .shown sequence ?_ frozen uncancelled
    intro command member
    exact (List.mem_append.mp member).elim (quiet command) (harmless command)
  | ended quiet unheld =>
    refine .ended ?_ unheld
    intro command member
    exact (List.mem_append.mp member).elim (quiet command) (harmless command)

/-- A worker that has stopped keeps the lock that it held. -/
theorem LockPhase.stopped (phase : LockPhase p commands lock) : LockPhase p [] lock := by
  cases phase with
  | queued before after waits first quiet unheld uncancelled => exact .ended (by simp) unheld
  | shown sequence quiet frozen uncancelled => exact .shown sequence (by simp) frozen uncancelled
  | ended quiet unheld => exact .ended (by simp) unheld

/-- The worker's step: it goes on in the phase, shows the lock or ends it. -/
theorem LockPhase.handled {env : PanelEnv} (phase : LockPhase p (command :: commands) lock)
    (undeferred : p.telemetry.deferredDamage lock.foreground.panelLease = none) :
    LockPhase (p.handle env command).2 commands lock ∧
    ((p.handle env command).2.telemetry.cancelledLockEpoch = p.telemetry.cancelledLockEpoch ∨
      (p.handle env command).2.telemetry.cancelledLockEpoch = lock.sleepEpoch) := by
  cases phase with
  | queued before after waits first quiet unheld uncancelled =>
    cases before with
    | nil =>
      rw [List.nil_append, List.cons.injEq] at waits
      obtain ⟨rfl, rfl⟩ := waits
      obtain ⟨cancelled, refused | ⟨sequence, frozen⟩⟩ := showLock_freezes env lock.sleepEpoch unheld undeferred
      · exact ⟨.ended quiet refused, .inl cancelled⟩
      · exact ⟨.shown sequence quiet frozen (cancelled ▸ uncancelled), .inl cancelled⟩
    | cons head before =>
      rw [List.cons_append, List.cons.injEq] at waits
      obtain ⟨rfl, waits⟩ := waits
      have other : ∀ lease sleepEpoch, command ≠ .showLock lease sleepEpoch := by
        rintro lease sleepEpoch rfl
        simpa [PanelCommand.locks] using first _ (List.mem_cons_self ..)
      obtain ⟨unheld, cancelled⟩ := handle_unlocked env unheld other
      refine ⟨.queued before after waits (fun c member => first c (List.mem_cons_of_mem _ member)) quiet unheld ?_,
        .inl cancelled⟩
      exact cancelled ▸ uncancelled
  | shown sequence quiet frozen uncancelled =>
    have rest : ∀ c ∈ commands, c.harmless = true := fun c member => quiet c (List.mem_cons_of_mem _ member)
    rcases handle_frozen env frozen (quiet _ (List.mem_cons_self ..)) with
      ⟨frozen, _, cancelled⟩ | ⟨_, _, _, _, unheld, cancelled, _⟩
    · exact ⟨.shown sequence rest frozen (cancelled ▸ uncancelled), .inl cancelled⟩
    · exact ⟨.ended rest unheld, .inr cancelled⟩
  | ended quiet unheld =>
    have harmless := quiet _ (List.mem_cons_self ..)
    have other : ∀ lease sleepEpoch, command ≠ .showLock lease sleepEpoch := by
      rintro lease sleepEpoch rfl
      simp [PanelCommand.harmless] at harmless
    obtain ⟨unheld, cancelled⟩ := handle_unlocked env unheld other
    exact ⟨.ended (fun c member => quiet c (List.mem_cons_of_mem _ member)) unheld, .inl cancelled⟩

end

/-! ## The invariant -/

variable {step : DisplayHost → DisplayHost}

namespace DisplayHost
variable {s t : DisplayHost}

/-- The lease is requested, prepared or has damage deferred for it. -/
def Known (s : DisplayHost) (lease : PanelLease) : Prop :=
  s.host.requested = some lease ∨ s.host.preparedForeground.map ForegroundLease.panelLease = some lease ∨
    s.worker.telemetry.deferredDamage lease ≠ none

structure LockSound (s : DisplayHost) : Prop where
  granted : ∀ lease, s.Known lease → s.host.Within lease
  cancelled : s.worker.telemetry.cancelledLockEpoch ≤ s.host.lastSleepEpoch
  unlocked : s.host.lock = none →
    s.worker.lock = none ∧ ∀ command ∈ s.host.panel.commands, command.locks = false
  locked : ∀ lock, s.host.lock = some lock →
    s.host.requested = some lock.foreground.panelLease ∧ lock.sleepEpoch ≤ s.host.lastSleepEpoch ∧
    s.worker.telemetry.deferredDamage lock.foreground.panelLease = none ∧
    LockPhase s.worker s.host.panel.commands lock

theorem start_lockSound (shm : Nat → SharedSurface) (backend : PanelBackend) : (start shm backend).LockSound := by
  refine ⟨?_, le_rfl, fun _ => ⟨rfl, by simp [start, HostState.new]⟩, ?_⟩
  · rintro lease (requested | prepared | deferred)
    · simp [start, HostState.new, HostState.requested] at requested
    · simp [start, HostState.new] at prepared
    · exact absurd rfl deferred
  · intro lock held
    simp [start, HostState.new] at held

/-- Harmless commands never disturb the lock. -/
theorem LockSound.unmoved (sound : s.LockSound) (commands : List PanelCommand) (worker : t.worker = s.worker)
    (unmoved : HostState.Unmoved s.host t.host commands) (harmless : ∀ command ∈ commands, command.harmless = true) :
    t.LockSound := by
  constructor
  · intro lease known
    have within : s.host.Within lease := sound.granted lease (by
      simpa only [Known, unmoved.requested, unmoved.prepared, worker] using known)
    simpa only [HostState.Within, unmoved.fences] using within
  · rw [worker, unmoved.lastSleepEpoch]
    exact sound.cancelled
  · intro unlocked
    rw [unmoved.lock] at unlocked
    obtain ⟨unheld, none⟩ := sound.unlocked unlocked
    rw [worker, unmoved.commands]
    refine ⟨unheld, fun command member => ?_⟩
    exact (List.mem_append.mp member).elim (none command) fun new => command.locks_of_harmless (harmless command new)
  · intro lock held
    rw [unmoved.lock] at held
    obtain ⟨requested, old, undeferred, phase⟩ := sound.locked lock held
    rw [worker, unmoved.commands, unmoved.requested, unmoved.lastSleepEpoch]
    exact ⟨requested, old, undeferred, phase.append harmless⟩

/-- While nothing is locked, no step but `show_lock` matters for the lock. -/
theorem LockSound.stays_unlocked (sound : s.LockSound) (commands : List PanelCommand) (worker : t.worker = s.worker)
    (before : s.host.lock = none) (after : t.host.lock = none) (last : t.host.lastSleepEpoch = s.host.lastSleepEpoch)
    (queue : t.host.panel.commands = s.host.panel.commands ++ commands)
    (others : ∀ command ∈ commands, command.locks = false)
    (granted : ∀ lease, t.Known lease → t.host.Within lease) : t.LockSound := by
  obtain ⟨unheld, none⟩ := sound.unlocked before
  refine ⟨granted, by rw [worker, last]; exact sound.cancelled, fun _ => ?_, fun lock held => ?_⟩
  · rw [worker, queue]
    exact ⟨unheld, fun command member => (List.mem_append.mp member).elim (none command) (others command)⟩
  · rw [after] at held
    cases held

theorem locks_of_onlyPen {commands : List PanelCommand} (pens : HostState.OnlyPen commands) :
    ∀ command ∈ commands, command.harmless = true := by
  intro command member
  obtain ⟨lease, frame, rfl⟩ := pens command member
  rfl

/-- The leases stay granted over a step that keeps or withdraws them. -/
theorem LockSound.granted_still (sound : s.LockSound) (worker : t.worker = s.worker) (fences : t.host.fences = s.host.fences)
    (requested : ∀ lease, t.host.requested = some lease → s.host.Within lease)
    (prepared : ∀ lease, t.host.preparedForeground = some lease → s.host.preparedForeground = some lease) :
    ∀ lease, t.Known lease → t.host.Within lease := by
  have still : ∀ lease, s.host.Within lease → t.host.Within lease := by
    intro lease within
    simpa only [HostState.Within, fences] using within
  rintro lease (requests | prepares | waits)
  · exact still lease (requested lease requests)
  · obtain ⟨foreground, held, rfl⟩ := Option.map_eq_some_iff.mp prepares
    exact still _ (sound.granted _ (.inr (.inl (by rw [prepared foreground held]; rfl))))
  · exact still lease (sound.granted lease (.inr (.inr (worker ▸ waits))))

/-- The leases stay granted when a new one is admitted. -/
theorem LockSound.granted_new (sound : s.LockSound) (worker : t.worker = s.worker) {new : PanelLease}
    (admits : s.host.Admits new)
    (fences : t.host.fences =
      (s.host.commitForegroundFence new.key new.generation new.foregroundEpoch).fences)
    (requested : ∀ lease, t.host.requested = some lease → lease = new ∨ s.host.requested = some lease)
    (prepared : ∀ lease, t.host.preparedForeground = some lease →
      lease.panelLease = new ∨ s.host.preparedForeground = some lease) :
    ∀ lease, t.Known lease → t.host.Within lease := by
  have within : ∀ lease, lease = new ∨ s.Known lease → t.host.Within lease := by
    intro lease known
    have committed : (s.host.commitForegroundFence new.key new.generation new.foregroundEpoch).Within lease := by
      rcases known with rfl | known
      · exact HostState.within_committed lease
      · exact HostState.Within.forward admits (sound.granted lease known)
    simpa only [HostState.Within, fences] using committed
  rintro lease (requests | prepares | waits)
  · exact within lease ((requested lease requests).imp id .inl)
  · obtain ⟨foreground, held, rfl⟩ := Option.map_eq_some_iff.mp prepares
    exact within _ ((prepared foreground held).imp id fun before => .inr (.inl (by rw [before]; rfl)))
  · exact within lease (.inr (.inr (.inr (worker ▸ waits))))

theorem LockSound.operated (sound : s.LockSound) {host : HostState}
    (operated : HostState.Operated s.worker.telemetry.cancelledLockEpoch s.host host) (worker : t.worker = s.worker)
    (same : t.host = host) : t.LockSound := by
  have requested : ∀ lease, s.host.requested = some lease → s.host.Within lease :=
    fun lease requests => sound.granted lease (.inl requests)
  cases operated with
  | idle => exact sound.unmoved [] worker (same ▸ HostState.Unmoved.refl s.host) (by simp)
  | shown lease command unlocked shows kind =>
    refine sound.stays_unlocked [command] worker unlocked (by rw [same]; exact unlocked) (by rw [same]; rfl)
      (by rw [same]; rfl) ?_ (sound.granted_still worker (by rw [same]; rfl) ?_ ?_)
    · rcases kind with rfl | ⟨rect, intent, rfl⟩ <;> simp [PanelCommand.locks]
    · rw [same]
      exact requested
    · rw [same]
      exact fun _ prepared => prepared
  | inked foreground enabled region unlocked shows =>
    refine sound.stays_unlocked [.configureInk foreground.panelLease enabled region] worker unlocked
      (by rw [same]; exact unlocked) (by rw [same]; rfl) (by rw [same]; rfl) (by simp [PanelCommand.locks])
      (sound.granted_still worker (by rw [same]; rfl) ?_ ?_)
    · rw [same]
      rintro lease requests
      refine requested lease ?_
      rw [HostState.requested, shows]
      exact requests
    · rw [same]
      exact fun _ prepared => prepared
  | held lock command locked kind =>
    refine sound.unmoved [command] worker (same ▸ HostState.sent_unmoved command) ?_
    rcases kind with rfl | ⟨sequence, rfl⟩ <;> simp [PanelCommand.harmless]
  | switched lease fullRefresh unlocked admits =>
    obtain ⟨pens, only, unmoved⟩ := HostState.fence_unmoved ((s.host.sent (.setForeground lease.panelLease
      fullRefresh)).commitForegroundFence lease.key lease.generation lease.epoch)
    refine sound.stays_unlocked (.setForeground lease.panelLease fullRefresh :: pens) worker unlocked
      (by rw [same]; exact unmoved.lock.trans unlocked) (by rw [same]; exact unmoved.lastSleepEpoch)
      (by rw [same]; exact unmoved.commands.trans (List.append_assoc ..)) ?_
      (sound.granted_new worker admits (by rw [same]; exact unmoved.fences) ?_ (by simp [same]))
    · intro command member
      rcases List.mem_cons.mp member with rfl | pen
      · rfl
      · exact command.locks_of_harmless (locks_of_onlyPen only command pen)
    · rw [same]
      rintro other requests
      exact .inl (Option.some.inj requests).symm
  | prepared lease unlocked admits =>
    obtain ⟨pens, only, unmoved⟩ :=
      HostState.fence_unmoved (s.host.commitForegroundFence lease.key lease.generation lease.epoch)
    refine sound.stays_unlocked pens worker unlocked (by rw [same]; exact unmoved.lock.trans unlocked)
      (by rw [same]; exact unmoved.lastSleepEpoch) (by rw [same]; exact unmoved.commands)
      (fun command pen => command.locks_of_harmless (locks_of_onlyPen only command pen))
      (sound.granted_new worker admits (by rw [same]; exact unmoved.fences) ?_ ?_)
    · rw [same]
      exact fun other requests => .inr (unmoved.requested.symm.trans requests)
    · rw [same]
      rintro other prepares
      exact .inl (congrArg ForegroundLease.panelLease (Option.some.inj prepares).symm)
  | activated lease inkEnabled fullRefresh unlocked prepared =>
    refine sound.stays_unlocked [.activateForeground lease.panelLease inkEnabled fullRefresh] worker
      unlocked (by rw [same]; exact unlocked) (by rw [same]; rfl) (by rw [same]; rfl) (by simp [PanelCommand.locks])
      (sound.granted_still worker (by rw [same]; rfl) ?_ (by simp [same]))
    rw [same]
    rintro other requests
    refine sound.granted other (.inr (.inl ?_))
    rw [prepared]
    exact requests
  | withdrawn unlocked =>
    refine sound.stays_unlocked [] worker unlocked (by rw [same]; exact unlocked) (by rw [same])
      (by rw [same, List.append_nil]) (by simp) (sound.granted_still worker (by rw [same]) ?_ (by simp [same]))
    rw [same]
    exact requested
  | cleared lease unlocked shows =>
    obtain ⟨pens, only, unmoved⟩ :=
      HostState.fence_unmoved ({ s.host with preparedForeground := none }.sent (.clearForeground lease))
    refine sound.stays_unlocked (.clearForeground lease :: pens) worker unlocked
      (by rw [same]; exact unmoved.lock.trans unlocked) (by rw [same]; exact unmoved.lastSleepEpoch)
      (by rw [same]; exact unmoved.commands.trans (List.append_assoc ..)) ?_
      (sound.granted_still worker (by rw [same]; exact unmoved.fences) ?_ ?_)
    · intro command member
      rcases List.mem_cons.mp member with rfl | pen
      · rfl
      · exact command.locks_of_harmless (locks_of_onlyPen only command pen)
    · rw [same]
      rintro other requests
      cases requests
    · rw [same]
      rintro other prepares
      have none : (none : Option ForegroundLease) = some other := unmoved.prepared.symm.trans prepares
      cases none
  | locked lease sleepEpoch unlocked unprepared newer admits =>
    obtain ⟨unheld, none⟩ := sound.unlocked unlocked
    obtain ⟨pens, only, unmoved⟩ := HostState.fence_unmoved
      { (s.host.sent (.showLock lease.panelLease sleepEpoch)).commitForegroundFence lease.key lease.generation
          lease.epoch with
        lastSleepEpoch := sleepEpoch }
    have undeferred : s.worker.telemetry.deferredDamage lease.panelLease = Option.none := by
      by_contra waits
      exact admits.not_within (sound.granted _ (.inr (.inr waits)))
    have last : t.host.lastSleepEpoch = sleepEpoch := by rw [same]; exact unmoved.lastSleepEpoch
    refine ⟨sound.granted_new worker admits (by rw [same]; exact unmoved.fences) ?_ ?_, ?_, ?_, ?_⟩
    · rw [same]
      rintro other requests
      exact .inl (Option.some.inj requests).symm
    · rw [same]
      exact fun other prepares => .inr (unmoved.prepared.symm.trans prepares)
    · rw [worker, last]
      exact sound.cancelled.trans newer.le
    · intro open'
      rw [same] at open'
      cases open'
    · rintro lock held
      rw [same] at held
      cases held
      rw [worker, last]
      refine ⟨by rw [same]; rfl, le_rfl, undeferred, ?_⟩
      have queue : t.host.panel.commands =
          s.host.panel.commands ++ .showLock lease.panelLease sleepEpoch :: pens := by
        rw [same]
        exact unmoved.commands.trans (List.append_assoc ..)
      rw [queue]
      exact .queued s.host.panel.commands pens rfl none (locks_of_onlyPen only) unheld
        (sound.cancelled.trans_lt newer).ne
  | finished lock locked acknowledged =>
    obtain ⟨requests, old, undeferred, phase⟩ := sound.locked lock locked
    obtain ⟨pens, only, unmoved⟩ := HostState.fence_unmoved s.host
    have queue : t.host.panel.commands = s.host.panel.commands ++ pens := by rw [same]; exact unmoved.commands
    have ended : (∀ command ∈ s.host.panel.commands, command.harmless = true) ∧ s.worker.lock = none := by
      cases phase with
      | queued before after waits first quiet unheld uncancelled => exact absurd acknowledged uncancelled
      | shown sequence quiet frozen uncancelled => exact absurd acknowledged uncancelled
      | ended quiet unheld => exact ⟨quiet, unheld⟩
    refine ⟨sound.granted_still worker (by rw [same]; exact unmoved.fences) ?_ ?_, ?_, fun _ => ?_, ?_⟩
    · rw [same]
      exact fun other requests => requested other (unmoved.requested.symm.trans requests)
    · rw [same]
      exact fun other prepares => unmoved.prepared.symm.trans prepares
    · rw [worker, same]
      exact sound.cancelled.trans unmoved.lastSleepEpoch.ge
    · rw [worker, queue]
      refine ⟨ended.2, fun command member => command.locks_of_harmless ?_⟩
      exact (List.mem_append.mp member).elim (ended.1 command) (locks_of_onlyPen only command)
    · rintro other held
      rw [same] at held
      cases held

/-! ## Steps of the host -/

/-- A step that only sends commands that a lock ignores. -/
def Quiet (s t : DisplayHost) : Prop :=
  t.worker = s.worker ∧ t.foregroundOps = s.foregroundOps ∧ ∃ commands : List PanelCommand, (∀ command ∈ commands, command.harmless = true) ∧
    HostState.Unmoved s.host t.host commands

theorem Quiet.refl (s : DisplayHost) : Quiet s s := ⟨rfl, rfl, [], by simp, .refl _⟩

theorem Quiet.of_unmoved (worker : t.worker = s.worker) (waiting : t.foregroundOps = s.foregroundOps)
    (unmoved : HostState.Unmoved s.host t.host []) : Quiet s t := ⟨worker, waiting, [], by simp, unmoved⟩

theorem Quiet.sound (quiet : Quiet s t) (sound : s.LockSound) : t.LockSound := by
  obtain ⟨worker, _, commands, harmless, unmoved⟩ := quiet
  exact sound.unmoved commands worker unmoved harmless

theorem register_quiet (client : Nat) (key width height : Int) (format : PixelFormat) (creation : Creation) :
    Quiet s (s.register client key width height format creation) := by
  unfold register perform
  split
  · exact .refl s
  have spec := HostState.register_spec (s := s.host) s.shm key width height format creation
  unfold Fallible.Ends at spec
  rcases run : (HostState.register s.shm key width height format creation).run s.host with ⟨result, host⟩
  rw [run] at spec
  rcases spec with ⟨error, next, rfl, rfl⟩ | ⟨shmKey, surface, next, _, rfl, rfl⟩
  · exact .of_unmoved rfl rfl ⟨rfl, rfl, rfl, rfl, rfl, (List.append_nil _).symm⟩
  · exact ⟨rfl, rfl, [.registerSurface key shmKey], by simp [PanelCommand.harmless], rfl, rfl, rfl, rfl, rfl, rfl⟩

theorem abort_quiet (client : Nat) (key : Int) : Quiet s (s.abort client key) := by
  unfold abort
  rcases HostState.abortRegistration_spec (s := s.host) key with same | ⟨entry, _, _, refused | told⟩
  · rw [same]
    exact .of_unmoved rfl rfl ⟨rfl, rfl, rfl, rfl, rfl, (List.append_nil _).symm⟩
  · rw [refused]
    exact .of_unmoved rfl rfl ⟨rfl, rfl, rfl, rfl, rfl, (List.append_nil _).symm⟩
  · rw [told]
    exact ⟨rfl, rfl, [.dropSurface key], by simp [PanelCommand.harmless], rfl, rfl, rfl, rfl, rfl, rfl⟩

theorem activateClient_quiet (client : Nat) : Quiet s (s.activateClient client) := by
  unfold activateClient perform
  split
  · rename_i key _
    rcases (HostState.activateClient_spec (s := s.host) key client).cases with
      ⟨error, failed⟩ | ⟨result, after, ended, entry, _, _, rfl⟩
    · simp only [failed]
      exact abort_quiet client key
    · simp only [ended]
      exact .of_unmoved rfl rfl ⟨rfl, rfl, rfl, rfl, rfl, (List.append_nil _).symm⟩
  · exact .refl s

theorem updateSurface_quiet (key : Int) (edit : SharedSurface → SharedSurface) : Quiet s (s.updateSurface key edit) := by
  unfold updateSurface
  split <;> exact .of_unmoved rfl rfl (.refl _)

theorem dispatch_quiet (captured : CapturedInput) : Quiet s (s.dispatch captured) := by
  obtain ⟨commands, pens, unmoved, _⟩ :=
    HostState.dispatch_frame (s := s.host) s.worker.telemetry.committedForeground captured
  exact ⟨rfl, rfl, commands, locks_of_onlyPen pens, unmoved⟩

theorem capture_quiet (frame : InputFrame) : Quiet s (s.capture frame) := by
  unfold capture
  split <;> exact .of_unmoved rfl rfl (.refl _)

/-- A departing surface takes the foreground along only while nothing is locked. -/
theorem LockSound.disconnected (sound : s.LockSound) {client : Nat} {key : Int} {host : HostState}
    (departs : HostState.Departs s.host client key host) (worker : t.worker = s.worker) (same : t.host = host) :
    t.LockSound := by
  have left : ∀ told, ∃ commands : List PanelCommand, (∀ command ∈ commands, command.harmless = true) ∧
      (s.host.departed key told).panel.commands = s.host.panel.commands ++ commands := by
    rintro (_ | _)
    · exact ⟨[], by simp, (List.append_nil _).symm⟩
    · exact ⟨[.dropSurface key], by simp [PanelCommand.harmless], rfl⟩
  have fields : ∀ told, (s.host.departed key told).lock = s.host.lock ∧
      (s.host.departed key told).fences = s.host.fences ∧
      (s.host.departed key told).lastSleepEpoch = s.host.lastSleepEpoch ∧
      (s.host.departed key told).foreground = s.host.foreground := by
    rintro (_ | _) <;> exact ⟨rfl, rfl, rfl, rfl⟩
  have prepared : ∀ told lease, (s.host.departed key told).preparedForeground = some lease →
      s.host.preparedForeground = some lease := by
    rintro (_ | _) lease prepares <;> exact (Option.filter_eq_some_iff.mp prepares).1
  have requested : ∀ lease, s.host.requested = some lease → s.host.Within lease :=
    fun lease requests => sound.granted lease (.inl requests)
  -- A lease that is cleared was requested, so it would be the lock's own.
  have unlocked : ∀ lease, s.host.leaseToClear key = some lease → s.host.lock = none := by
    intro lease clears
    obtain ⟨requests, matching, others⟩ := HostState.leaseToClear_spec clears
    cases locked : s.host.lock with
    | none => rfl
    | some lock =>
      have held := (sound.locked lock locked).1
      rw [requests, Option.some.injEq] at held
      subst held
      exact absurd matching (others lock locked)
  cases departs with
  | absent unregistered => exact sound.unmoved [] worker (same ▸ HostState.Unmoved.refl s.host) (by simp)
  | shared entry clients registered others kept =>
    exact sound.unmoved [] worker (by rw [same]; exact ⟨rfl, rfl, rfl, rfl, rfl, (List.append_nil _).symm⟩) (by simp)
  | hidden entry told registered last stays =>
    obtain ⟨commands, harmless, queue⟩ := left told
    obtain ⟨lock, fences, lastEpoch, foreground⟩ := fields told
    have still := sound.granted_still worker (by rw [same]; exact fences)
      (by rw [same, HostState.departed_requested]; exact requested) (by rw [same]; exact prepared told)
    refine ⟨still, by rw [worker, same, lastEpoch]; exact sound.cancelled, ?_, ?_⟩
    · intro free
      rw [same, lock] at free
      obtain ⟨unheld, none⟩ := sound.unlocked free
      rw [worker, same, queue]
      exact ⟨unheld, fun command member => (List.mem_append.mp member).elim (none command)
        fun new => command.locks_of_harmless (harmless command new)⟩
    · intro held locked
      rw [same, lock] at locked
      obtain ⟨requests, old, undeferred, phase⟩ := sound.locked held locked
      rw [worker, same, queue, lastEpoch, HostState.departed_requested]
      exact ⟨requests, old, undeferred, phase.append harmless⟩
  | stuck entry told lease registered last clears =>
    obtain ⟨commands, harmless, queue⟩ := left told
    obtain ⟨lock, fences, lastEpoch, foreground⟩ := fields told
    obtain ⟨pens, only, unmoved⟩ := HostState.fence_unmoved (s.host.departed key told)
    refine sound.stays_unlocked (commands ++ pens) worker (unlocked lease clears) ?_ ?_ ?_ ?_ ?_
    · rw [same]
      exact unmoved.lock.trans (lock.trans (unlocked lease clears))
    · rw [same]
      exact unmoved.lastSleepEpoch.trans lastEpoch
    · rw [same]
      exact unmoved.commands.trans (by rw [queue, List.append_assoc])
    · intro command member
      exact command.locks_of_harmless ((List.mem_append.mp member).elim (harmless command) (locks_of_onlyPen only command))
    · refine sound.granted_still worker (by rw [same]; exact unmoved.fences.trans fences) ?_ ?_
      · rw [same]
        exact fun other requests => requested other
          (by rw [← HostState.departed_requested key told, ← unmoved.requested]; exact requests)
      · rw [same]
        exact fun other prepares => prepared told other (unmoved.prepared ▸ prepares)
  | cleared entry told lease registered last clears =>
    obtain ⟨commands, harmless, queue⟩ := left told
    obtain ⟨lock, fences, lastEpoch, foreground⟩ := fields told
    obtain ⟨pens, only, first⟩ := HostState.fence_unmoved (s.host.departed key told)
    obtain ⟨more, only', second⟩ := HostState.fence_unmoved
      ((s.host.departed key told).fenceInputContacts.sent (.clearForeground lease))
    have unmoved := first.trans ((HostState.sent_unmoved (.clearForeground lease)).trans second)
    refine sound.stays_unlocked (commands ++ (pens ++ ([.clearForeground lease] ++ more))) worker
      (unlocked lease clears) ?_ ?_ ?_ ?_ ?_
    · rw [same]
      exact unmoved.lock.trans (lock.trans (unlocked lease clears))
    · rw [same]
      exact unmoved.lastSleepEpoch.trans lastEpoch
    · rw [same]
      exact unmoved.commands.trans (by rw [queue, List.append_assoc])
    · intro command member
      simp only [List.mem_append, List.mem_singleton] at member
      rcases member with new | pen | rfl | pen
      · exact command.locks_of_harmless (harmless command new)
      · exact command.locks_of_harmless (locks_of_onlyPen only command pen)
      · rfl
      · exact command.locks_of_harmless (locks_of_onlyPen only' command pen)
    · refine sound.granted_still worker (by rw [same]; exact unmoved.fences.trans fences) ?_ ?_
      · rw [same]
        rintro other requests
        cases requests
      · rw [same]
        exact fun other prepares => prepared told other (unmoved.prepared ▸ prepares)

/-- Damage is deferred only for the requested lease, while nothing is locked. -/
theorem LockSound.damaged (sound : s.LockSound) (key : Int) (rect : Option Rect) : (s.damage key rect).LockSound := by
  unfold damage perform
  split
  · exact sound
  rename_i entry _
  dsimp only
  generalize rect.getD (s.shm entry.shmKey).fullRect = rect
  generalize damageIntent (s.shm entry.shmKey) = intent
  obtain ⟨operated, waiting⟩ := HostState.damage_spec (s := s.host)
    s.worker.telemetry.cancelledLockEpoch key rect intent
  rcases run : (HostState.damage key rect intent).run s.host with ⟨result, host⟩
  rw [run] at operated waiting
  have plain : ({ s with host := host } : DisplayHost).LockSound := sound.operated operated rfl rfl
  simp only
  split
  · rename_i lease t same
    simp only [Prod.mk.injEq] at same
    obtain ⟨deferred, rfl⟩ := same
    obtain ⟨visible, rfl⟩ := waiting lease deferred
    obtain ⟨unlocked, requests, _⟩ := HostState.visibleLease_spec visible
    refine ⟨?_, sound.cancelled, fun _ => sound.unlocked unlocked, fun lock locked => ?_⟩
    · rintro other (requested | prepared | waits)
      · exact sound.granted other (.inl requested)
      · exact sound.granted other (.inr (.inl prepared))
      · by_cases mine : other = lease
        · exact mine ▸ sound.granted lease (.inl requests)
        · refine sound.granted other (.inr (.inr ?_))
          simpa [PanelTelemetry.deferDamage, Function.update_of_ne mine] using waits
    · exact absurd (unlocked.symm.trans locked) (by simp)
  · rename_i t same
    simp only [Prod.mk.injEq] at same
    exact same.2 ▸ plain

/-! ## Steps of the worker -/

theorem LockSound.stop (sound : s.LockSound) : s.stop.LockSound := by
  refine ⟨sound.granted, sound.cancelled, fun unlocked => ⟨(sound.unlocked unlocked).1, by simp [DisplayHost.stop]⟩, ?_⟩
  intro lock locked
  obtain ⟨requests, old, undeferred, phase⟩ := sound.locked lock locked
  exact ⟨requests, old, undeferred, phase.stopped⟩

/-- The worker may change its announcements as long as the lock goes on. -/
theorem LockSound.worked (sound : s.LockSound) (commands : List PanelCommand) {shown : Option PanelLease}
    (host : t.host = { s.host with panel := { s.host.panel with commands := commands } })
    (announces : Announces s.worker shown t.worker)
    (unlocked : s.worker.lock = none → (∀ command ∈ s.host.panel.commands, command.locks = false) →
      t.worker.lock = none ∧ (∀ command ∈ commands, command.locks = false) ∧
      t.worker.telemetry.cancelledLockEpoch = s.worker.telemetry.cancelledLockEpoch)
    (phase : ∀ lock, LockPhase s.worker s.host.panel.commands lock →
      s.worker.telemetry.deferredDamage lock.foreground.panelLease = none → LockPhase t.worker commands lock ∧
      (t.worker.telemetry.cancelledLockEpoch = s.worker.telemetry.cancelledLockEpoch ∨
        t.worker.telemetry.cancelledLockEpoch = lock.sleepEpoch)) : t.LockSound := by
  refine ⟨?_, ?_, fun free => ?_, fun lock locked => ?_⟩
  · rw [host]
    rintro lease (requested | prepared | waits)
    · exact sound.granted lease (.inl (by rw [host] at requested; exact requested))
    · exact sound.granted lease (.inr (.inl (by rw [host] at prepared; exact prepared)))
    · exact sound.granted lease (.inr (.inr (announces.deferred lease waits)))
  · rw [host]
    cases locked : s.host.lock with
    | none =>
      obtain ⟨unheld, none⟩ := sound.unlocked locked
      exact (unlocked unheld none).2.2.le.trans sound.cancelled
    | some lock =>
      obtain ⟨_, old, undeferred, before⟩ := sound.locked lock locked
      rcases (phase lock before undeferred).2 with same | ended
      · exact same.le.trans sound.cancelled
      · exact ended.le.trans old
  · rw [host] at free ⊢
    obtain ⟨unheld, none⟩ := sound.unlocked free
    obtain ⟨unheld, none, _⟩ := unlocked unheld none
    exact ⟨unheld, none⟩
  · rw [host] at locked ⊢
    obtain ⟨requests, old, undeferred, before⟩ := sound.locked lock locked
    refine ⟨requests, old, ?_, (phase lock before undeferred).1⟩
    exact by_contra fun waits => announces.deferred _ waits undeferred

theorem LockSound.handled (sound : s.LockSound) {rest : List PanelCommand} (now : Int) (marker : Option Nat)
    (queue : s.host.panel.commands = command :: rest) :
    ({ s with
      host := { s.host with panel := { s.host.panel with commands := rest } }
      worker := (s.worker.handle (s.env now marker) command).2 } : DisplayHost).LockSound := by
  refine sound.worked rest rfl (handle_announces (s.env now marker) command) ?_ ?_
  · intro unheld none
    rw [queue] at none
    have other : ∀ lease sleepEpoch, command ≠ .showLock lease sleepEpoch := by
      rintro lease sleepEpoch rfl
      simpa [PanelCommand.locks] using none _ (List.mem_cons_self ..)
    obtain ⟨unheld, cancelled⟩ := handle_unlocked (s.env now marker) unheld other
    exact ⟨unheld, fun c member => none c (List.mem_cons_of_mem _ member), cancelled⟩
  · intro lock phase undeferred
    rw [queue] at phase
    exact phase.handled undeferred

theorem LockPhase.flushed {p q : PanelRuntime} {commands : List PanelCommand} {lock : LockLease}
    (phase : LockPhase p commands lock) (held : q.lock = p.lock)
    (cancelled : q.telemetry.cancelledLockEpoch = p.telemetry.cancelledLockEpoch)
    (frozen : ∀ held, Frozen p held → Frozen q held) : LockPhase q commands lock := by
  cases phase with
  | queued before after waits first quiet unheld uncancelled =>
    exact .queued before after waits first quiet (held.trans unheld) (cancelled ▸ uncancelled)
  | shown sequence quiet shown uncancelled => exact .shown sequence quiet (frozen _ shown) (cancelled ▸ uncancelled)
  | ended quiet unheld => exact .ended quiet (held.trans unheld)

/-- Neither flush changes the lock, nor draws under one. -/
theorem LockSound.flushed (sound : s.LockSound) {worker : PanelRuntime} (announces : Announces s.worker none worker)
    (held : worker.lock = s.worker.lock)
    (cancelled : worker.telemetry.cancelledLockEpoch = s.worker.telemetry.cancelledLockEpoch)
    (frozen : ∀ held, Frozen s.worker held → Frozen worker held) :
    ({ s with worker := worker } : DisplayHost).LockSound :=
  sound.worked s.host.panel.commands rfl announces
    (fun unheld none => ⟨held.trans unheld, none, cancelled⟩)
    fun _ phase _ => ⟨LockPhase.flushed phase held cancelled frozen, .inl cancelled⟩

theorem LockSound.work (sound : s.LockSound) (now : Int) (marker : Option Nat) : (s.work now marker).LockSound := by
  unfold DisplayHost.work
  cases queue : s.host.panel.commands with
  | nil => exact sound
  | cons command rest =>
    have handled := sound.handled now marker queue
    simp only
    split
    · rename_i shutdown
      subst shutdown
      exact handled.stop
    generalize s.worker.handle (s.env now marker) command = outcome at handled
    obtain ⟨result, worker⟩ := outcome
    cases result with
    | ok _ => exact handled
    | error error =>
      simp only
      split
      · exact handled
      · exact handled.stop

theorem LockSound.flush {outcome : Outcome}
    (sound : ∀ worker, worker = outcome.2 → ({ s with worker := worker } : DisplayHost).LockSound) :
    (s.flush outcome).LockSound := by
  obtain ⟨result, worker⟩ := outcome
  cases result with
  | ok _ => exact sound worker rfl
  | error error => exact (sound worker rfl).stop

/-! ## Waiting for the panel -/

/-- An operation that waits for a cancellation finds its lock when it goes on. -/
def Waits (s : DisplayHost) : Prop :=
  ∀ sleepEpoch, s.foregroundOps = some (.lockCancellation sleepEpoch) →
    ∃ lock, s.host.lock = some lock ∧ lock.sleepEpoch = sleepEpoch

theorem Quiet.waits (quiet : Quiet s t) (waits : s.Waits) : t.Waits := by
  obtain ⟨_, waiting, commands, _, unmoved⟩ := quiet
  intro sleepEpoch same
  rw [waiting] at same
  rw [unmoved.lock]
  exact waits sleepEpoch same

theorem waits_of_idle (idle : s.foregroundOps = none) : s.Waits := by
  intro sleepEpoch waiting
  rw [idle] at waiting
  cases waiting

theorem LockSound.finish (sound : s.LockSound) (waits : s.Waits) : s.acknowledged.LockSound ∧ s.acknowledged.Waits := by
  unfold acknowledged
  cases waiting : s.foregroundOps with
  | none => exact ⟨sound, waits⟩
  | some operation =>
    cases operation with
    | lockCancellation sleepEpoch =>
      simp only
      split
      · rename_i acknowledged
        obtain ⟨lock, locked, rfl⟩ := waits sleepEpoch waiting
        exact ⟨sound.operated (.finished lock locked acknowledged) rfl rfl, waits_of_idle rfl⟩
      · exact ⟨sound, waits⟩
    | inkPolicy lease enabled =>
      simp only
      split
      · exact ⟨sound.unmoved [] rfl (.refl _) (by simp), waits_of_idle rfl⟩
      · exact ⟨sound, waits⟩

/-! ## Every event -/

/-- What every reached state of the machine keeps. -/
def LockInvariant (s : DisplayHost) : Prop := s.LockSound ∧ s.Waits

theorem LockInvariant.quiet (sound : s.LockInvariant) (quiet : Quiet s t) : t.LockInvariant :=
  ⟨quiet.sound sound.1, quiet.waits sound.2⟩

/-- An operation under the operations' lock that keeps it for itself. -/
theorem exclusively_invariant (sound : s.LockInvariant) (free : s.foregroundOps = none → (step s).LockInvariant) :
    (s.exclusively step).LockInvariant := by
  unfold exclusively
  cases held : s.foregroundOps with
  | none => simpa using free held
  | some waiting => simpa using sound

theorem perform_invariant {α : Type} {operation : Hosted α} (sound : s.LockInvariant)
    (operated : HostState.Operated s.worker.telemetry.cancelledLockEpoch s.host (operation.run s.host).2) :
    (s.exclusively fun s => (s.perform operation).2).LockInvariant :=
  exclusively_invariant sound fun idle => ⟨sound.1.operated operated rfl rfl, waits_of_idle idle⟩

theorem begin_invariant {operation : Hosted (Option HostState.Waiting)} (sound : s.LockInvariant)
    (idle : s.foregroundOps = none)
    (operated : HostState.Operated s.worker.telemetry.cancelledLockEpoch s.host (operation.run s.host).2)
    (waits : Fallible.Ends operation s.host fun result t => ∀ sleepEpoch,
      result = .ok (some (.lockCancellation sleepEpoch)) → ∃ lock, t.lock = some lock ∧ lock.sleepEpoch = sleepEpoch) :
    (s.begin operation).LockInvariant := by
  unfold begin perform
  unfold Fallible.Ends at waits
  rcases run : operation.run s.host with ⟨result, host⟩
  rw [run] at operated waits
  have after : ({ s with host := host } : DisplayHost).LockSound := sound.1.operated operated rfl rfl
  cases result with
  | error error => exact ⟨after, waits_of_idle idle⟩
  | ok waiting =>
    refine ⟨after.unmoved [] rfl (.refl _) (by simp), fun sleepEpoch same => ?_⟩
    exact waits sleepEpoch (congrArg Except.ok same)

theorem withKey_invariant {client : Nat} {step : DisplayHost → Int → DisplayHost} (sound : s.LockInvariant)
    (keyed : ∀ key, (step s key).LockInvariant) : (s.withKey client step).LockInvariant := by
  unfold withKey
  cases s.keyOf client with
  | none => exact sound
  | some key => exact keyed key

/-- A worker's step leaves the operations' lock and the host's lock alone. -/
theorem whileRunning_invariant (sound : s.LockInvariant) (after : (step s).LockSound)
    (waiting : (step s).foregroundOps = s.foregroundOps) (lock : (step s).host.lock = s.host.lock) :
    (s.whileRunning step).LockInvariant := by
  unfold whileRunning
  split
  · refine ⟨after, fun sleepEpoch same => ?_⟩
    rw [waiting] at same
    rw [lock]
    exact sound.2 sleepEpoch same
  · exact sound

theorem work_frame (now : Int) (marker : Option Nat) :
    (s.work now marker).foregroundOps = s.foregroundOps ∧ (s.work now marker).host.lock = s.host.lock := by
  unfold work
  split
  · exact ⟨rfl, rfl⟩
  dsimp only
  split
  · exact ⟨rfl, rfl⟩
  split
  · exact ⟨rfl, rfl⟩
  split <;> exact ⟨rfl, rfl⟩

theorem flush_frame (outcome : Outcome) :
    (s.flush outcome).foregroundOps = s.foregroundOps ∧ (s.flush outcome).host.lock = s.host.lock := by
  unfold flush
  split <;> exact ⟨rfl, rfl⟩

theorem damage_frame (key : Int) (rect : Option Rect) : (s.damage key rect).foregroundOps = s.foregroundOps := by
  unfold damage perform
  split
  · rfl
  dsimp only
  generalize ExceptT.run (HostState.damage _ _ _) s.host = outcome
  obtain ⟨result, host⟩ := outcome
  rcases result with error | (_ | lease) <;> rfl

theorem queues_unmoved (host : HostState) (queues : Nat → InputQueue) :
    HostState.Unmoved host { host with queues := queues } [] := ⟨rfl, rfl, rfl, rfl, rfl, (List.append_nil _).symm⟩

theorem next_invariant (s : DisplayHost) (event : HostEvent) (sound : s.LockInvariant) : (s.next event).LockInvariant := by
  cases event with
  | connect => exact sound.quiet (.of_unmoved rfl rfl (.refl _))
  | register client key width height format creation =>
    exact sound.quiet (register_quiet client key width height format creation)
  | activateClient client => exact sound.quiet (activateClient_quiet client)
  | replyFailed client =>
    simp only [next, replyFailed]
    split
    · exact sound.quiet (abort_quiet client _)
    · exact sound
  | draw shmKey bytes => exact sound.quiet (.of_unmoved rfl rfl (.refl _))
  | markCommit client =>
    simp only [next]
    exact withKey_invariant sound fun key => sound.quiet (updateSurface_quiet key _)
  | damage client rect =>
    simp only [next]
    refine withKey_invariant sound fun key => exclusively_invariant sound fun idle => ?_
    exact ⟨sound.1.damaged key rect, waits_of_idle ((damage_frame key rect).trans idle)⟩
  | setRefreshMode client mode =>
    simp only [next]
    exact withKey_invariant sound fun key => sound.quiet (updateSurface_quiet key _)
  | requestSurfaceFullRefresh client =>
    simp only [next]
    exact withKey_invariant sound fun key => perform_invariant sound (HostState.requestSurfaceFullRefresh_operated key)
  | disconnect client =>
    simp only [next, disconnect]
    split
    · exact sound.quiet (.of_unmoved rfl rfl (queues_unmoved _ _))
    · rename_i key _
      refine exclusively_invariant sound fun idle => ?_
      have left : ({ s with host := s.host.unregister client key } : DisplayHost).LockInvariant :=
        ⟨sound.1.disconnected (HostState.unregister_departs client key) rfl rfl, waits_of_idle idle⟩
      exact left.quiet (.of_unmoved rfl rfl (queues_unmoved _ _))
    · exact sound
  | receive client => exact sound.quiet (.of_unmoved rfl rfl (queues_unmoved _ _))
  | setForeground key generation epoch fullRefresh =>
    simp only [next]
    exact perform_invariant sound (HostState.setForeground_operated key generation epoch fullRefresh)
  | prepareForeground key generation epoch =>
    simp only [next]
    exact perform_invariant sound (HostState.prepareForeground_operated key generation epoch)
  | activateForeground key generation epoch inkEnabled fullRefresh =>
    simp only [next]
    exact perform_invariant sound
      (HostState.activateForeground_operated key generation epoch inkEnabled fullRefresh)
  | clearForeground =>
    simp only [next]
    exact perform_invariant sound HostState.clearForeground_operated
  | configureInk key generation epoch enabled region =>
    simp only [next]
    refine exclusively_invariant sound fun idle => ?_
    obtain ⟨operated, waits⟩ := HostState.configureInk_begins (s := s.host) s.worker.telemetry.cancelledLockEpoch key
      generation epoch enabled region
    exact begin_invariant sound idle operated waits
  | requestFullRefresh =>
    simp only [next]
    exact perform_invariant sound HostState.requestFullRefresh_operated
  | showLock key generation epoch sleepEpoch =>
    simp only [next]
    exact perform_invariant sound (HostState.showLock_operated key generation epoch sleepEpoch)
  | refreshLock sleepEpoch =>
    simp only [next]
    exact perform_invariant sound (HostState.refreshLock_operated sleepEpoch)
  | cancelLock sleepEpoch sequence =>
    simp only [next]
    refine exclusively_invariant sound fun idle => begin_invariant sound idle
      (HostState.cancelLock_operated s.shm s.worker.telemetry sleepEpoch sequence) ?_
    refine (HostState.cancelLock_waits s.shm s.worker.telemetry sleepEpoch sequence).weaken ?_
    rintro result t waits epoch ended
    obtain ⟨lock, locked, same, after⟩ := waits _ ended
    exact ⟨lock, by rw [after]; exact locked, by cases same; rfl⟩
  | acknowledged => exact sound.1.finish sound.2
  | timedOut => exact ⟨sound.1.unmoved [] rfl (.refl _) (by simp), waits_of_idle rfl⟩
  | inject epoch frame =>
    simp only [next]
    exact exclusively_invariant sound fun _ => sound.quiet (dispatch_quiet _)
  | shutdown =>
    rcases HostState.offerPanel_spec (s := { s.host with shutdown := true }) .shutdown with refused | accepted
    · simp only [next, refused]
      exact sound.quiet (.of_unmoved rfl rfl ⟨rfl, rfl, rfl, rfl, rfl, (List.append_nil _).symm⟩)
    · simp only [next, accepted]
      exact sound.quiet ⟨rfl, rfl, [.shutdown], by simp [PanelCommand.harmless], rfl, rfl, rfl, rfl, rfl, rfl⟩
  | capture frame => exact sound.quiet (capture_quiet frame)
  | dispatchPen =>
    simp only [next]
    refine exclusively_invariant sound fun _ => ?_
    unfold dispatchPen
    cases s.penInput with
    | nil => exact sound
    | cons captured rest =>
      have popped : ({ s with penInput := rest } : DisplayHost).LockInvariant :=
        sound.quiet (.of_unmoved rfl rfl (.refl _))
      exact popped.quiet (dispatch_quiet captured)
  | dispatchTouch =>
    simp only [next]
    refine exclusively_invariant sound fun _ => ?_
    unfold dispatchTouch
    cases s.touchInput with
    | nil => exact sound
    | cons captured rest =>
      have popped : ({ s with touchInput := rest } : DisplayHost).LockInvariant :=
        sound.quiet (.of_unmoved rfl rfl (.refl _))
      exact popped.quiet (dispatch_quiet captured)
  | work now marker =>
    simp only [next]
    exact whileRunning_invariant sound (sound.1.work now marker) (work_frame now marker).1 (work_frame now marker).2
  | flushDeferred now marker =>
    simp only [next]
    refine whileRunning_invariant sound ?_ (flush_frame _).1 (flush_frame _).2
    refine LockSound.flush fun worker same => ?_
    subst same
    obtain ⟨announces, held, cancelled⟩ := flushDeferredDamage_announces (s.env now marker) (p := s.worker)
    exact sound.1.flushed announces held cancelled fun lock frozen => by rwa [(flush_frozen _ frozen).1]
  | flushDeadlines now marker =>
    simp only [next]
    refine whileRunning_invariant sound ?_ (flush_frame _).1 (flush_frame _).2
    refine LockSound.flush fun worker same => ?_
    subst same
    obtain ⟨dirty, deadline, started, view, _⟩ := flushDeadlines_view (s.env now marker) (p := s.worker)
    exact sound.1.flushed ⟨.inl view.committedForeground, fun _ waits => view.deferredDamage ▸ waits⟩ view.lock
      view.cancelledLockEpoch fun lock frozen => (flush_frozen _ frozen).2.1

end DisplayHost

/-! ## Steps under the worker's lock -/

/-- The steps that the worker's thread takes. -/
def HostEvent.worker : HostEvent → Bool
  | .work _ _ | .flushDeferred _ _ | .flushDeadlines _ _ => true
  | _ => false

/-- The worker shares its screen and its lock with no other thread. -/
def SameScreen (p q : PanelRuntime) : Prop := q.lock = p.lock ∧ q.backend = p.backend

namespace DisplayHost
variable {s t : DisplayHost}

theorem exclusively_screen (free : SameScreen s.worker (step s).worker) :
    SameScreen s.worker (s.exclusively step).worker := by
  unfold exclusively
  split
  · exact ⟨rfl, rfl⟩
  · exact free

theorem withKey_screen {client : Nat} {step : DisplayHost → Int → DisplayHost}
    (keyed : ∀ key, SameScreen s.worker (step s key).worker) : SameScreen s.worker (s.withKey client step).worker := by
  unfold withKey
  split
  · exact ⟨rfl, rfl⟩
  · exact keyed _

theorem Quiet.screen (quiet : Quiet s t) : SameScreen s.worker t.worker := by
  rw [quiet.1]
  exact ⟨rfl, rfl⟩

theorem perform_screen {α : Type} (operation : Hosted α) : SameScreen s.worker (s.perform operation).2.worker :=
  ⟨rfl, rfl⟩

theorem begin_screen (operation : Hosted (Option HostState.Waiting)) : SameScreen s.worker (s.begin operation).worker := by
  unfold begin perform
  rcases operation.run s.host with ⟨_ | _, host⟩ <;> exact ⟨rfl, rfl⟩

theorem next_screen (s : DisplayHost) (event : HostEvent) (other : event.worker = false) :
    SameScreen s.worker (s.next event).worker := by
  cases event with
  | connect => exact ⟨rfl, rfl⟩
  | register client key width height format creation =>
    exact (register_quiet client key width height format creation).screen
  | activateClient client => exact (activateClient_quiet client).screen
  | replyFailed client =>
    simp only [next, replyFailed]
    split
    · exact (abort_quiet client _).screen
    · exact ⟨rfl, rfl⟩
  | draw shmKey bytes => exact ⟨rfl, rfl⟩
  | markCommit client =>
    simp only [next]
    exact withKey_screen fun key => (updateSurface_quiet key _).screen
  | damage client rect =>
    simp only [next]
    refine withKey_screen fun key => exclusively_screen ?_
    unfold damage perform
    split
    · exact ⟨rfl, rfl⟩
    dsimp only
    generalize ExceptT.run (HostState.damage _ _ _) s.host = outcome
    rcases outcome with ⟨error | (_ | lease), host⟩ <;> exact ⟨rfl, rfl⟩
  | setRefreshMode client mode =>
    simp only [next]
    exact withKey_screen fun key => (updateSurface_quiet key _).screen
  | requestSurfaceFullRefresh client =>
    simp only [next]
    exact withKey_screen fun key => exclusively_screen (perform_screen _)
  | disconnect client =>
    simp only [next, disconnect]
    split
    · exact ⟨rfl, rfl⟩
    · exact exclusively_screen ⟨rfl, rfl⟩
    · exact ⟨rfl, rfl⟩
  | receive client => exact ⟨rfl, rfl⟩
  | setForeground key generation epoch fullRefresh =>
    simp only [next]
    exact exclusively_screen (perform_screen _)
  | prepareForeground key generation epoch =>
    simp only [next]
    exact exclusively_screen (perform_screen _)
  | activateForeground key generation epoch inkEnabled fullRefresh =>
    simp only [next]
    exact exclusively_screen (perform_screen _)
  | clearForeground =>
    simp only [next]
    exact exclusively_screen (perform_screen _)
  | configureInk key generation epoch enabled region =>
    simp only [next]
    exact exclusively_screen (begin_screen _)
  | requestFullRefresh =>
    simp only [next]
    exact exclusively_screen (perform_screen _)
  | showLock key generation epoch sleepEpoch =>
    simp only [next]
    exact exclusively_screen (perform_screen _)
  | refreshLock sleepEpoch =>
    simp only [next]
    exact exclusively_screen (perform_screen _)
  | cancelLock sleepEpoch sequence =>
    simp only [next]
    exact exclusively_screen (begin_screen _)
  | acknowledged =>
    simp only [next, acknowledged]
    split
    · split <;> exact ⟨rfl, rfl⟩
    · split <;> exact ⟨rfl, rfl⟩
    · exact ⟨rfl, rfl⟩
  | timedOut => exact ⟨rfl, rfl⟩
  | inject epoch frame =>
    simp only [next]
    exact exclusively_screen (dispatch_quiet _).screen
  | shutdown => exact ⟨rfl, rfl⟩
  | capture frame => exact (capture_quiet frame).screen
  | dispatchPen =>
    simp only [next]
    refine exclusively_screen ?_
    unfold dispatchPen
    split
    · exact ⟨rfl, rfl⟩
    · exact ⟨rfl, rfl⟩
  | dispatchTouch =>
    simp only [next]
    refine exclusively_screen ?_
    unfold dispatchTouch
    split
    · exact ⟨rfl, rfl⟩
    · exact ⟨rfl, rfl⟩
  | work now marker => cases other
  | flushDeferred now marker => cases other
  | flushDeadlines now marker => cases other

/-- The step has released the lock: it carried out the cancellation of that lock,
    and the replacement frame that the cancellation asks for has been submitted. -/
def Released (s : DisplayHost) (event : HostEvent) (lock : PanelLock) : Prop :=
  ∃ now marker sequence rest, event = .work now marker ∧
    s.host.panel.commands = .cancelLock lock.lease lock.sleepEpoch sequence :: rest ∧ 0 < sequence ∧
    (s.next event).worker.lock = none ∧ UnlockSubmitted (s.next event).worker lock.lease sequence

/-- A worker that holds a lock is frozen, and its queue cannot thaw it. -/
theorem LockSound.frozen (sound : s.LockSound) {lock : PanelLock} (held : s.worker.lock = some lock) :
    Frozen s.worker lock ∧ ∀ command ∈ s.host.panel.commands, command.harmless = true := by
  cases locked : s.host.lock with
  | none => simp [(sound.unlocked locked).1] at held
  | some lease =>
    obtain ⟨_, _, _, phase⟩ := sound.locked lease locked
    cases phase with
    | queued before after waits first quiet unheld uncancelled => simp [unheld] at held
    | shown sequence quiet frozen uncancelled =>
      have same := frozen.held.symm.trans held
      rw [Option.some.injEq] at same
      exact ⟨same ▸ frozen, quiet⟩
    | ended quiet unheld => simp [unheld] at held

theorem work_frozen {lock : PanelLock} (frozen : Frozen s.worker lock)
    (quiet : ∀ command ∈ s.host.panel.commands, command.harmless = true) (now : Int) (marker : Option Nat) :
    SameScreen s.worker (s.work now marker).worker ∨
    ∃ sequence rest, s.host.panel.commands = .cancelLock lock.lease lock.sleepEpoch sequence :: rest ∧ 0 < sequence ∧
      (s.work now marker).worker.lock = none ∧ UnlockSubmitted (s.work now marker).worker lock.lease sequence := by
  unfold DisplayHost.work
  cases queue : s.host.panel.commands with
  | nil => exact .inl ⟨rfl, rfl⟩
  | cons command rest =>
    simp only
    split
    · exact .inl ⟨rfl, rfl⟩
    have handled := handle_frozen (s.env now marker) frozen (quiet command (queue ▸ List.mem_cons_self ..))
    rcases run : s.worker.handle (s.env now marker) command with ⟨result, worker⟩
    rw [run] at handled
    rcases handled with ⟨still, backend, _⟩ | ⟨sequence, rfl, positive, accepted, unheld, _, submitted⟩
    · left
      have same : SameScreen s.worker worker := ⟨still.held.trans frozen.held.symm, backend⟩
      cases result with
      | ok _ => exact same
      | error error =>
        simp only
        split <;> exact same
    · right
      simp only at accepted
      subst accepted
      exact ⟨sequence, rest, rfl, positive, unheld, submitted⟩

theorem next_frozen {lock : PanelLock} (sound : s.LockSound) (held : s.worker.lock = some lock) (event : HostEvent) :
    SameScreen s.worker (s.next event).worker ∨ s.Released event lock := by
  obtain ⟨frozen, quiet⟩ := sound.frozen held
  have flushed : ∀ {outcome : Outcome}, SameScreen s.worker outcome.2 → SameScreen s.worker (s.flush outcome).worker := by
    rintro ⟨result, worker⟩ same
    cases result <;> exact same
  have running : ∀ {step : DisplayHost → DisplayHost}, SameScreen s.worker (step s).worker →
      SameScreen s.worker (s.whileRunning step).worker := by
    intro step same
    unfold whileRunning
    split
    · exact same
    · exact ⟨rfl, rfl⟩
  cases event with
  | work now marker =>
    rcases work_frozen frozen quiet now marker with same | ⟨sequence, rest, queue, positive, unheld, submitted⟩
    · exact .inl (running same)
    · by_cases runs : s.running = true
      · have step : s.next (.work now marker) = s.work now marker := by simp [next, whileRunning, runs]
        exact .inr ⟨now, marker, sequence, rest, rfl, queue, positive, step ▸ unheld, step ▸ submitted⟩
      · left
        simp only [next, whileRunning, runs, Bool.false_eq_true, if_false]
        exact ⟨rfl, rfl⟩
  | flushDeferred now marker =>
    have same := (flush_frozen (s.env now marker) frozen).1
    exact .inl (running (flushed (by rw [same]; exact ⟨rfl, rfl⟩)))
  | flushDeadlines now marker =>
    obtain ⟨_, still, backend, _⟩ := flush_frozen (s.env now marker) frozen
    exact .inl (running (flushed ⟨still.held.trans held.symm, backend⟩))
  | _ => exact .inl (next_screen s _ rfl)

end DisplayHost

open DisplayHost in
/-- In every reached state in which the worker holds a lock, the lock's lease shows;
    whatever happens next keeps the lock and the framebuffer, unless it carries out the
    cancellation of that lock and has submitted its replacement frame; and a cancellation
    that fails leaves the framebuffer and the lock as they were. -/
theorem lock_freezes_screen (shm : Nat → SharedSurface) (backend : PanelBackend) (events : List HostEvent)
    (lock : PanelLock) (held : (events.foldl next (start shm backend)).worker.lock = some lock) :
    let s := events.foldl next (start shm backend)
    s.worker.foreground = some lock.lease ∧
    (∀ event, (s.next event).worker.lock = some lock ∧ (s.next event).worker.backend = s.worker.backend ∨
      s.Released event lock) ∧
    ∀ env lease sleepEpoch sequence error, (s.worker.cancelLock env lease sleepEpoch sequence).1 = .error error →
      (s.worker.cancelLock env lease sleepEpoch sequence).2.lock = some lock ∧
      (s.worker.cancelLock env lease sleepEpoch sequence).2.backend = s.worker.backend := by
  intro s
  have sound : s.LockSound := (Runs.run_invariant next_invariant events (s := start shm backend)
    ⟨start_lockSound shm backend, waits_of_idle rfl⟩).1
  refine ⟨(sound.frozen held).1.foreground, fun event => ?_, ?_⟩
  · rcases next_frozen sound held event with ⟨same, backend⟩ | released
    · exact .inl ⟨same.trans held, backend⟩
    · exact .inr released
  · intro env lease sleepEpoch sequence error failed
    have spec := cancelLock_spec env (p := s.worker) lease sleepEpoch sequence
    generalize s.worker.cancelLock env lease sleepEpoch sequence = outcome at spec failed
    cases spec with
    | failed error q view backend => exact ⟨view.lock.trans held, backend⟩
    | released q shmKey holds registered positive reached presented => cases failed

namespace Sample

/-- An application commits a frame of the lock screen, and the host locks on it. -/
def locking : List HostEvent :=
  [.connect, .register 0 1 2 2 .rgb565 ⟨0, none⟩, .activateClient 0, .markCommit 0, .showLock 1 1 1 1,
    .work 0 (some 1), .work 1 (some 2)]

end Sample

open DisplayHost Sample in
theorem lock_freezes_screen_locking :
    let s := locking.foldl next (start (fun _ => tile) glass)
    s.worker.foreground = some lease ∧
    (∀ event, (s.next event).worker.lock = some ⟨1, lease, 1⟩ ∧ (s.next event).worker.backend = s.worker.backend ∨
      s.Released event ⟨1, lease, 1⟩) ∧
    ∀ env lease' sleepEpoch sequence error, (s.worker.cancelLock env lease' sleepEpoch sequence).1 = .error error →
      (s.worker.cancelLock env lease' sleepEpoch sequence).2.lock = some ⟨1, lease, 1⟩ ∧
      (s.worker.cancelLock env lease' sleepEpoch sequence).2.backend = s.worker.backend :=
  lock_freezes_screen (fun _ => tile) glass locking ⟨1, lease, 1⟩ (by decide)

end Remagic.Display
