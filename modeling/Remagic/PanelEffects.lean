import Remagic.PanelSpecs

/-!
# What a command announces, and what it does under a lock

The host learns of the worker only through the telemetry: which lease is
committed, which lock is cancelled and which damage is still deferred. A worker
that holds a lock is frozen: no command that the host sends then touches its
framebuffer, until a cancellation presents the replacement and releases it.
-/

namespace Remagic.Display

/-- The lease that a command asks the worker to show. -/
def PanelCommand.shown : PanelCommand → Option PanelLease
  | .setForeground lease _ => some lease
  | .activateForeground lease _ _ => some lease
  | .showLock lease _ => some lease
  | _ => none

/-- A command that the host sends while its display is locked. -/
def PanelCommand.harmless : PanelCommand → Bool
  | .registerSurface _ _ | .dropSurface _ | .pen _ _ | .refreshLock _ _ | .cancelLock _ _ _ | .shutdown => true
  | _ => false

namespace PanelRuntime
variable (env : PanelEnv) {p q : PanelRuntime}

/-! ## Announcements -/

/-- All that `q` may announce after `p` when `shown` was asked for. -/
structure Announces (p : PanelRuntime) (shown : Option PanelLease) (q : PanelRuntime) : Prop where
  committed : q.telemetry.committedForeground = p.telemetry.committedForeground ∨
    q.telemetry.committedForeground = none ∨ shown.isSome = true ∧ q.telemetry.committedForeground = shown
  deferred : ∀ lease, q.telemetry.deferredDamage lease ≠ none → p.telemetry.deferredDamage lease ≠ none

theorem Announces.refl (p : PanelRuntime) (shown : Option PanelLease) : Announces p shown p :=
  ⟨.inl rfl, fun _ waits => waits⟩

theorem SameView.announces (view : SameView p q) (shown : Option PanelLease) : Announces p shown q :=
  ⟨.inl view.committedForeground, fun _ waits => view.deferredDamage ▸ waits⟩

theorem discardReplaced_deferred (lease other : PanelLease)
    (waits : (p.discardReplaced lease).telemetry.deferredDamage other ≠ none) :
    p.telemetry.deferredDamage other ≠ none := by
  unfold discardReplaced at waits
  cases shows : p.foreground with
  | none => simpa [shows] using waits
  | some previous =>
    by_cases replaced : previous ≠ lease
    · simp only [shows, replaced, ne_eq, not_false_eq_true, if_true, PanelTelemetry.discardDeferredDamage] at waits
      by_cases same : other = previous
      · simp [same] at waits
      · simpa [Function.update_of_ne same] using waits
    · simpa [shows, replaced] using waits

variable {env} in
theorem Switched.announces {lease : PanelLease} {shmKey : Nat} (switched : Switched env p lease shmKey q) :
    Announces p (some lease) q := by
  constructor
  · rw [switched.committedForeground]
    by_cases accepted : env.marker.isSome = true <;> simp [accepted]
  · intro other waits
    rw [switched.deferredDamage] at waits
    exact discardReplaced_deferred lease other waits

variable {env} in
theorem SwitchOutcome.announces {lease : PanelLease} {outcome : Outcome} (switch : SwitchOutcome env p lease outcome) :
    Announces p (some lease) outcome.2 := by
  rcases switch with ⟨_, same, _⟩ | ⟨shmKey, _, switched, _⟩
  · exact same ▸ .refl p _
  · exact switched.announces

theorem clearForegroundUnchecked_telemetry :
    p.clearForegroundUnchecked.telemetry = p.telemetry ∨
    ∃ lease, p.clearForegroundUnchecked.telemetry = (p.telemetry.discardDeferredDamage lease).clearCommittedForeground lease := by
  unfold clearForegroundUnchecked
  cases p.foreground with
  | none => exact .inl rfl
  | some lease => exact .inr ⟨lease, rfl⟩

theorem clearForegroundUnchecked_announces (shown : Option PanelLease) : Announces p shown p.clearForegroundUnchecked := by
  rcases clearForegroundUnchecked_telemetry (p := p) with telemetry | ⟨lease, telemetry⟩
  · exact ⟨.inl (by rw [telemetry]), fun other waits => telemetry ▸ waits⟩
  constructor
  · rw [telemetry]
    by_cases current : p.telemetry.committedForeground = some lease
    · exact .inr (.inl (if_pos current))
    · exact .inl (if_neg current)
  · intro other waits
    rw [telemetry] at waits
    simp only [PanelTelemetry.clearCommittedForeground, PanelTelemetry.discardDeferredDamage] at waits
    by_cases same : other = lease
    · simp [same] at waits
    · simpa [Function.update_of_ne same] using waits

theorem handleDamage_view (lease : PanelLease) (rect : Rect) (intent : RefreshIntent) :
    ∃ dirty, SameView { p with canonicalDirty := dirty } (p.handleDamage env lease rect intent).2 := by
  unfold handleDamage
  split
  · exact ⟨_, .refl p⟩
  split
  · exact ⟨_, .refl _⟩
  · exact ⟨_, (presentSurface_view env lease rect intent .surfaceDamage).1⟩

theorem dropSurface_announces (key : Int) (shown : Option PanelLease) : Announces p shown (p.dropSurface key) := by
  have fewer : ∀ lease, (p.telemetry.discardDeferredDamageForKey key).deferredDamage lease ≠ none →
      p.telemetry.deferredDamage lease ≠ none := by
    intro lease waits
    unfold PanelTelemetry.discardDeferredDamageForKey at waits
    by_cases same : lease.key = key <;> simp [same] at waits ⊢
    exact waits
  have removed : Announces p shown { p with
      surfaces := Function.update p.surfaces key none
      telemetry := p.telemetry.discardDeferredDamageForKey key } := ⟨.inl rfl, fewer⟩
  unfold dropSurface
  dsimp only
  split
  · exact removed
  split
  · have cleared := clearForegroundUnchecked_announces (p := { p with
      surfaces := Function.update p.surfaces key none
      telemetry := p.telemetry.discardDeferredDamageForKey key }) shown
    exact ⟨cleared.committed, fun lease waits => fewer lease (cleared.deferred lease waits)⟩
  · exact removed

theorem handle_announces (command : PanelCommand) : Announces p command.shown (p.handle env command).2 := by
  cases command with
  | registerSurface key shmKey => exact ⟨.inl rfl, fun _ waits => waits⟩
  | dropSurface key => exact dropSurface_announces key _
  | damage lease rect intent =>
    obtain ⟨dirty, view⟩ := handleDamage_view env (p := p) lease rect intent
    exact ⟨.inl view.committedForeground, fun _ waits => view.deferredDamage ▸ waits⟩
  | setForeground lease fullRefresh => exact (setForeground_spec env lease fullRefresh).announces
  | activateForeground lease inkEnabled fullRefresh =>
    exact (activateForeground_spec env lease inkEnabled fullRefresh).announces
  | clearForeground lease =>
    rcases clearForeground_spec (p := p) lease with ⟨same, _⟩ | ⟨cleared, _⟩
    · simp only [handle, same]
      exact .refl p _
    · simp only [handle, cleared]
      exact clearForegroundUnchecked_announces _
  | configureInk lease enabled region =>
    rcases configureInk_spec (p := p) lease enabled region with ⟨error, refused⟩ | ⟨_, configured⟩
    · simp only [handle, refused]
      exact .refl p _
    · simp only [handle, configured]
      exact ⟨.inl rfl, fun _ waits => waits⟩
  | pen lease frame =>
    have step := handlePen_spec env (p := p) lease frame
    exact ⟨.inl step.committedForeground, fun _ waits => step.deferredDamage ▸ waits⟩
  | fullRefresh lease =>
    rcases fullRefresh_spec env (p := p) lease with same | ⟨rect, presented⟩
    · simp only [handle, same]
      exact .refl p _
    · simp only [handle, presented]
      exact (presentSurface_view env lease rect .full .fullRefresh).1.announces _
  | showLock lease sleepEpoch =>
    obtain ⟨result, q, switch, same | ⟨_, sequence, locked⟩⟩ := showLock_spec env (p := p) lease sleepEpoch
    · simp only [handle, same]
      exact switch.announces
    · simp only [handle, locked]
      exact ⟨switch.announces.committed, switch.announces.deferred⟩
  | refreshLock lease sleepEpoch => exact (refreshLock_spec env lease sleepEpoch).1.announces _
  | cancelLock lease sleepEpoch sequence =>
    have spec := cancelLock_spec env (p := p) lease sleepEpoch sequence
    simp only [handle]
    generalize p.cancelLock env lease sleepEpoch sequence = outcome at spec
    cases spec with
    | failed error q view backend => exact view.announces _
    | released q shmKey holds registered positive reached presented =>
      have view := (presentSurface_view env (p := p) lease (env.shm shmKey).fullRect .full .unlockScreen).1
      rw [presented] at view
      exact ⟨.inl view.committedForeground, fun _ waits => view.deferredDamage ▸ waits⟩
  | shutdown => exact .refl p _

/-- The worker handles the damage deferred for its foreground as if it came now. -/
theorem flushDeferredDamage_spec :
    (p.flushDeferredDamage env).2 = p ∨ ∃ lease damage, p.foreground = some lease ∧
      p.telemetry.deferredDamage lease = some damage ∧
      (p.flushDeferredDamage env).2 =
        (handleDamage env { p with telemetry := p.telemetry.discardDeferredDamage lease } lease damage.rect
          damage.intent).2 := by
  cases shows : p.foreground with
  | none => exact .inl (by simp [flushDeferredDamage, shows])
  | some lease =>
    cases waiting : p.telemetry.deferredDamage lease with
    | none => exact .inl (by simp [flushDeferredDamage, shows, waiting])
    | some damage => exact .inr ⟨lease, damage, rfl, waiting, by simp [flushDeferredDamage, shows, waiting]⟩

theorem flushDeferredDamage_announces :
    Announces p none (p.flushDeferredDamage env).2 ∧ (p.flushDeferredDamage env).2.lock = p.lock ∧
    (p.flushDeferredDamage env).2.telemetry.cancelledLockEpoch = p.telemetry.cancelledLockEpoch := by
  rcases flushDeferredDamage_spec env (p := p) with same | ⟨lease, damage, _, waiting, same⟩
  · rw [same]
    exact ⟨.refl p none, rfl, rfl⟩
  · obtain ⟨dirty, view⟩ := handleDamage_view env
      (p := { p with telemetry := p.telemetry.discardDeferredDamage lease }) lease damage.rect damage.intent
    rw [same]
    refine ⟨⟨.inl view.committedForeground, fun other waits => ?_⟩, view.lock, view.cancelledLockEpoch⟩
    rw [view.deferredDamage] at waits
    unfold PanelTelemetry.discardDeferredDamage at waits
    by_cases same : other = lease
    · simp [same] at waits
    · simpa [Function.update_of_ne same] using waits

/-- Flushing the deadlines changes no lease, whether or not it settles a stroke. -/
theorem flushDeadlines_view : ∃ dirty deadline started,
    SameView { p with canonicalDirty := dirty, settleDeadline := deadline, settleStarted := started }
      (p.flushDeadlines env).2 ∧ (deadline ≠ none → p.settleDeadline ≠ none) := by
  obtain ⟨q, view, _, same | settles⟩ := flushDeadlines_spec env (p := p)
  · exact ⟨_, _, _, same ▸ view, id⟩
  generalize (p.flushDeadlines env).2 = r at settles
  cases settles with
  | early => exact ⟨_, _, _, view, id⟩
  | retry settling =>
    refine ⟨_, some (env.now + canonicalSettleRetry), _, ⟨view.surfaces, view.foreground, view.lock, view.ink,
      view.activePen, view.canonicalDirty, rfl, view.settleStarted, view.inkBeginSequence, view.deferredDamage,
      view.committedForeground, view.committedLockEpoch, view.cancelledLockEpoch⟩, fun _ none => ?_⟩
    rw [view.settleDeadline, none] at settling
    cases settling
  | cleared due older expired =>
    exact ⟨default, none, none, ⟨view.surfaces, view.foreground, view.lock, view.ink, view.activePen, rfl, rfl, rfl,
      view.inkBeginSequence, view.deferredDamage, view.committedForeground, view.committedLockEpoch,
      view.cancelledLockEpoch⟩, fun some => absurd rfl some⟩
  | copied newer enabled r copied copies =>
    refine ⟨default, none, none, SameView.trans ?_ copied, fun some => absurd rfl some⟩
    exact ⟨view.surfaces, view.foreground, view.lock, view.ink, view.activePen, rfl, rfl, rfl, view.inkBeginSequence,
      view.deferredDamage, view.committedForeground, view.committedLockEpoch, view.cancelledLockEpoch⟩

/-! ## Locking -/

/-- A switch that succeeds without an ink policy leaves ink disabled. -/
theorem setForegroundWith_ink (lease : PanelLease) (intent : RefreshIntent) (reason : SubmissionReason)
    (switched : (p.setForegroundWith env lease intent reason).1 = .ok ()) :
    (p.setForegroundWith env lease intent reason).2.ink = default := by
  unfold setForegroundWith at switched ⊢
  cases registered : p.surface env lease.key with
  | none => simp [registered] at switched
  | some surface =>
    simp only [registered] at switched ⊢
    have view := (presentSurface_view env
      (p := { (p.discardReplaced lease).abortInk with ink := default, foreground := some lease }) lease
      surface.fullRect intent reason).1
    generalize presentSurface env { (p.discardReplaced lease).abortInk with ink := default, foreground := some lease }
      lease surface.fullRect intent reason = outcome at switched view ⊢
    obtain ⟨result, q⟩ := outcome
    cases result with
    | error error => simp at switched
    | ok _ => exact view.ink

/-- The worker holds this lock, and nothing that could still draw is under way. -/
structure Frozen (p : PanelRuntime) (lock : PanelLock) : Prop where
  held : p.lock = some lock
  foreground : p.foreground = some lock.lease
  ink : p.ink.enabled = false
  settled : p.settleDeadline = none
  undeferred : p.telemetry.deferredDamage lock.lease = none

/-- `show_lock` without a lock held fails, or freezes the worker. -/
theorem showLock_freezes {lease : PanelLease} (sleepEpoch : Nat) (unlocked : p.lock = none)
    (undeferred : p.telemetry.deferredDamage lease = none) :
    (p.showLock env lease sleepEpoch).2.telemetry.cancelledLockEpoch = p.telemetry.cancelledLockEpoch ∧
    ((p.showLock env lease sleepEpoch).2.lock = none ∨
      ∃ sequence, Frozen (p.showLock env lease sleepEpoch).2 ⟨sleepEpoch, lease, sequence⟩) := by
  have announces := handle_announces env (p := p) (.showLock lease sleepEpoch)
  have spec := setForegroundWith_spec env (p := p) lease .full .lockScreen
  have ink := setForegroundWith_ink env (p := p) lease .full .lockScreen
  have undeferred : (p.showLock env lease sleepEpoch).2.telemetry.deferredDamage lease = none :=
    by_contra fun waits => announces.deferred lease waits undeferred
  unfold showLock Outcome.andThen at undeferred ⊢
  rcases switched : p.setForegroundWith env lease .full .lockScreen with ⟨result, q⟩
  rw [switched] at spec ink undeferred
  have kept : q.lock = none ∧ q.telemetry.cancelledLockEpoch = p.telemetry.cancelledLockEpoch := by
    rcases spec with ⟨_, same, _⟩ | ⟨shmKey, _, switched, _⟩
    · simp only at same
      rw [same]
      exact ⟨unlocked, rfl⟩
    · exact ⟨switched.lock.trans unlocked, switched.cancelledLockEpoch⟩
  cases result with
  | error error => exact ⟨kept.2, .inl kept.1⟩
  | ok _ =>
    simp only at ink undeferred ⊢
    cases presented : q.telemetry.lastPresented with
    | none => exact ⟨kept.2, .inl kept.1⟩
    | some last =>
      obtain ⟨key, sequence⟩ := last
      simp only [presented] at undeferred ⊢
      by_cases recorded : key = lease.key ∧ sequence > 0
      · rw [if_pos recorded] at undeferred ⊢
        rcases spec with ⟨_, _, error, failed⟩ | ⟨shmKey, _, switched, accepted⟩
        · cases failed
        · refine ⟨kept.2, .inr ⟨sequence, rfl, ?_, by simp [ink, default], switched.settleDeadline, undeferred⟩⟩
          show q.foreground = some lease
          rw [switched.foreground, if_pos (accepted.mp rfl)]
      · rw [if_neg recorded]
        exact ⟨kept.2, .inl kept.1⟩

/-- Only `show_lock` locks the worker, and without a lock nothing is cancelled. -/
theorem handle_unlocked (unlocked : p.lock = none) {command : PanelCommand}
    (other : ∀ lease sleepEpoch, command ≠ .showLock lease sleepEpoch) :
    (p.handle env command).2.lock = none ∧
    (p.handle env command).2.telemetry.cancelledLockEpoch = p.telemetry.cancelledLockEpoch := by
  have switch : ∀ {lease outcome}, SwitchOutcome env p lease outcome →
      outcome.2.lock = none ∧ outcome.2.telemetry.cancelledLockEpoch = p.telemetry.cancelledLockEpoch := by
    rintro lease outcome (⟨_, same, _⟩ | ⟨shmKey, _, switched, _⟩)
    · rw [same]
      exact ⟨unlocked, rfl⟩
    · exact ⟨switched.lock.trans unlocked, switched.cancelledLockEpoch⟩
  have cleared : p.clearForegroundUnchecked.lock = none ∧
      p.clearForegroundUnchecked.telemetry.cancelledLockEpoch = p.telemetry.cancelledLockEpoch := by
    refine ⟨unlocked, ?_⟩
    unfold clearForegroundUnchecked
    cases p.foreground <;> rfl
  cases command with
  | registerSurface key shmKey => exact ⟨unlocked, rfl⟩
  | dropSurface key =>
    simp only [handle, dropSurface, unlocked, Option.any_none, Bool.false_eq_true, if_false]
    split
    · refine ⟨rfl, ?_⟩
      unfold clearForegroundUnchecked
      cases p.foreground <;> rfl
    · exact ⟨rfl, rfl⟩
  | damage lease rect intent =>
    obtain ⟨dirty, view⟩ := handleDamage_view env (p := p) lease rect intent
    exact ⟨view.lock.trans unlocked, view.cancelledLockEpoch⟩
  | setForeground lease fullRefresh => exact switch (setForeground_spec env lease fullRefresh)
  | activateForeground lease inkEnabled fullRefresh => exact switch (activateForeground_spec env lease inkEnabled fullRefresh)
  | clearForeground lease =>
    rcases clearForeground_spec (p := p) lease with ⟨same, _⟩ | ⟨same, _⟩
    · simp only [handle, same]
      exact ⟨unlocked, trivial⟩
    · simp only [handle, same]
      exact cleared
  | configureInk lease enabled region =>
    rcases configureInk_spec (p := p) lease enabled region with ⟨error, refused⟩ | ⟨_, configured⟩
    · simp only [handle, refused]
      exact ⟨unlocked, trivial⟩
    · simp only [handle, configured]
      exact ⟨unlocked, rfl⟩
  | pen lease frame =>
    have step := handlePen_spec env (p := p) lease frame
    exact ⟨step.lock.trans unlocked, step.cancelledLockEpoch⟩
  | fullRefresh lease =>
    rcases fullRefresh_spec env (p := p) lease with same | ⟨rect, presented⟩
    · simp only [handle, same]
      exact ⟨unlocked, trivial⟩
    · simp only [handle, presented]
      have view := (presentSurface_view env (p := p) lease rect .full .fullRefresh).1
      exact ⟨view.lock.trans unlocked, view.cancelledLockEpoch⟩
  | showLock lease sleepEpoch => exact absurd rfl (other lease sleepEpoch)
  | refreshLock lease sleepEpoch =>
    have view := (refreshLock_spec env (p := p) lease sleepEpoch).1
    exact ⟨view.lock.trans unlocked, view.cancelledLockEpoch⟩
  | cancelLock lease sleepEpoch sequence =>
    have spec := cancelLock_spec env (p := p) lease sleepEpoch sequence
    simp only [handle]
    generalize p.cancelLock env lease sleepEpoch sequence = outcome at spec
    cases spec with
    | failed error q view backend => exact ⟨view.lock.trans unlocked, view.cancelledLockEpoch⟩
    | released q shmKey holds registered positive reached presented => simp [holdsLock, unlocked] at holds
  | shutdown => exact ⟨unlocked, rfl⟩

/-! ## Under a lock -/

/-- The last submission is the unlock frame: the whole replacement surface, accepted
    by the vendor library, from a commit that is late enough. -/
def UnlockSubmitted (p : PanelRuntime) (lease : PanelLease) (sequence : Nat) : Prop :=
  ∃ record, p.telemetry.recentSubmissions.getLast? = some record ∧ record.success = true ∧
    record.reason = .unlockScreen ∧ record.lease = lease ∧ sequence ≤ record.surfaceSequence

variable {env} in
/-- A presentation that makes a copy and succeeds has submitted it, and the panel says so. -/
theorem presentSurface_submitted {lease : PanelLease} {rect : Rect} {intent : RefreshIntent} {reason : SubmissionReason}
    {copy : Copy} (made : p.presentedCopy env lease rect = some copy)
    (presented : p.presentSurface env lease rect intent reason = (.ok (), q)) :
    q.telemetry.lastPresented = some (lease.key, copy.sequence) ∧
    ∃ record, q.telemetry.recentSubmissions.getLast? = some record ∧ record.success = true ∧
      record.reason = reason ∧ record.lease = lease ∧ record.surfaceSequence = copy.sequence := by
  unfold presentedCopy at made
  unfold presentSurface at presented
  by_cases visible : p.foreground = some lease
  · cases registered : p.surfaces lease.key with
    | none => simp [visible, registered] at made
    | some shmKey =>
      simp only [visible, registered, if_true, Option.bind_some, ne_eq, not_true_eq_false, if_false] at made presented
      by_cases empty : (rect.clip (env.shm shmKey).width (env.shm shmKey).height).isEmpty = true
      · simp [empty] at made
      · simp only [empty, Bool.false_eq_true, if_false] at made presented
        cases made
        unfold submit Outcome.andThen at presented
        cases marked : env.marker with
        | none => simp [marked] at presented
        | some marker =>
          simp only [marked, Prod.mk.injEq, true_and] at presented
          subst presented
          exact ⟨rfl, _, List.getLast?_concat, rfl, rfl, rfl, rfl⟩
  · simp [visible] at made

/-- What a command that the host sends under a lock does: nothing, or it is the
    cancellation of that lock and the replacement has been submitted. -/
theorem handle_frozen {lock : PanelLock} (frozen : Frozen p lock) {command : PanelCommand}
    (harmless : command.harmless = true) :
    (Frozen (p.handle env command).2 lock ∧ (p.handle env command).2.backend = p.backend ∧
      (p.handle env command).2.telemetry.cancelledLockEpoch = p.telemetry.cancelledLockEpoch) ∨
    ∃ sequence, command = .cancelLock lock.lease lock.sleepEpoch sequence ∧ 0 < sequence ∧
      (p.handle env command).1 = .ok () ∧ (p.handle env command).2.lock = none ∧
      (p.handle env command).2.telemetry.cancelledLockEpoch = lock.sleepEpoch ∧
      UnlockSubmitted (p.handle env command).2 lock.lease sequence := by
  have keeps : ∀ {q}, SameView p q → Frozen q lock ∧
      q.telemetry.cancelledLockEpoch = p.telemetry.cancelledLockEpoch := fun view =>
    ⟨⟨view.lock.trans frozen.held, view.foreground.trans frozen.foreground, view.ink ▸ frozen.ink,
      view.settleDeadline.trans frozen.settled, view.deferredDamage ▸ frozen.undeferred⟩, view.cancelledLockEpoch⟩
  cases command with
  | registerSurface key shmKey =>
    exact .inl ⟨⟨frozen.held, frozen.foreground, frozen.ink, frozen.settled, frozen.undeferred⟩, rfl, rfl⟩
  | dropSurface key =>
    left
    obtain ⟨_, backend, ⟨foreground, held, ink, settled, _, telemetry⟩ | ⟨_, _, _, unheld, lease, shows, same⟩⟩ :=
      dropSurface_spec (p := p) key
    · refine ⟨⟨held.trans frozen.held, foreground.trans frozen.foreground, ink ▸ frozen.ink,
        settled.trans frozen.settled, ?_⟩, backend, by simp only [handle, telemetry]; rfl⟩
      by_contra waits
      exact (dropSurface_announces (p := p) key none).deferred lock.lease waits frozen.undeferred
    · rw [frozen.foreground, Option.mem_def, Option.some.injEq] at shows
      exact absurd (shows ▸ same) (unheld lock (by rw [frozen.held]; rfl))
  | pen lease frame =>
    left
    have invalid : p.penLeaseValid lease frame = false := by simp [penLeaseValid, frozen.ink]
    have same : (p.handle env (.pen lease frame)).2 = p := by simp [handle, handlePen, invalid]
    rw [same]
    exact ⟨frozen, rfl, rfl⟩
  | refreshLock lease sleepEpoch =>
    obtain ⟨view, backend⟩ := refreshLock_spec env (p := p) lease sleepEpoch
    exact .inl ⟨(keeps view).1, backend, (keeps view).2⟩
  | cancelLock lease sleepEpoch sequence =>
    have spec := cancelLock_spec env (p := p) lease sleepEpoch sequence
    simp only [handle]
    generalize p.cancelLock env lease sleepEpoch sequence = outcome at spec
    cases spec with
    | failed error q view backend => exact .inl ⟨(keeps view).1, backend, (keeps view).2⟩
    | released q shmKey holds registered positive reached presented =>
      right
      have matching : lock.sleepEpoch = sleepEpoch ∧ lock.lease = lease := by
        simpa [holdsLock, frozen.held] using holds
      obtain ⟨rfl, rfl⟩ := matching
      obtain ⟨-, record, last, success, unlocks, owner, submitted⟩ :=
        presentSurface_submitted (presentedCopy_full env frozen.foreground registered) presented
      refine ⟨sequence, rfl, by omega, rfl, rfl, rfl, record, ?_, success, unlocks, owner, ?_⟩
      · simpa [PanelTelemetry.clearCommittedLock, PanelTelemetry.recordLockCancelled] using last
      · rw [submitted]
        exact reached
  | shutdown => exact .inl ⟨frozen, rfl, rfl⟩
  | _ => simp [PanelCommand.harmless] at harmless

/-- While the worker is frozen no deadline and no deferred damage draws. -/
theorem flush_frozen {lock : PanelLock} (frozen : Frozen p lock) :
    (p.flushDeferredDamage env).2 = p ∧
    Frozen (p.flushDeadlines env).2 lock ∧ (p.flushDeadlines env).2.backend = p.backend ∧
    (p.flushDeadlines env).2.telemetry.cancelledLockEpoch = p.telemetry.cancelledLockEpoch := by
  constructor
  · rcases flushDeferredDamage_spec env (p := p) with same | ⟨lease, damage, shows, waiting, _⟩
    · exact same
    · rw [frozen.foreground, Option.some.injEq] at shows
      rw [← shows, frozen.undeferred] at waiting
      cases waiting
  obtain ⟨view, backend⟩ := flushLive_spec env (p := p) false
  have kept : ∀ {q}, SameView p q → q.settle env = q := by
    intro q view
    have settled : q.settleDeadline = none := view.settleDeadline.trans frozen.settled
    simp [settle, settled]
  unfold flushDeadlines Outcome.andThen
  rcases flushed : p.flushLive env false with ⟨result, q⟩
  rw [flushed] at view backend
  have frozen : Frozen q lock := ⟨view.lock.trans frozen.held, view.foreground.trans frozen.foreground,
    view.ink ▸ frozen.ink, view.settleDeadline.trans frozen.settled, view.deferredDamage ▸ frozen.undeferred⟩
  cases result with
  | error error => exact ⟨frozen, backend, view.cancelledLockEpoch⟩
  | ok _ =>
    simp only [kept view]
    exact ⟨frozen, backend, view.cancelledLockEpoch⟩

end PanelRuntime
end Remagic.Display
