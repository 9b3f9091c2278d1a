import Remagic.LockFreeze

/-!
# What the worker's telemetry tells

The daemon learns of the panel through the telemetry alone. Its committed foreground
and its committed lock are the worker's own, and so is its committed ink policy unless
a failed switch has just ended the worker. A record of the submission history comes
from one command, whose reason and lease it carries.
-/

namespace Remagic.Display

/-! ## The history -/

namespace PanelTelemetry
variable {may other : SubmissionRecord → Prop} {t u v : PanelTelemetry}

/-- The submissions that are remembered and the number of the last one. -/
def history (t : PanelTelemetry) : List SubmissionRecord × Nat := (t.recentSubmissions, t.nextSubmissionSequence)

/-- At most one submission was made, and it is one of these. -/
def Submits (may : SubmissionRecord → Prop) (t u : PanelTelemetry) : Prop :=
  u.history = t.history ∨ ∃ record, may record ∧ u.history = (t.recordSubmission record).history

theorem Submits.refl (may : SubmissionRecord → Prop) (t : PanelTelemetry) : Submits may t t := .inl rfl

theorem Submits.weaken (submits : Submits may t u) (also : ∀ record, may record → other record) : Submits other t u := by
  rcases submits with same | ⟨record, made, recorded⟩
  · exact .inl same
  · exact .inr ⟨record, also record made, recorded⟩

/-- What keeps the history may stand before a submission or after it. -/
theorem Submits.congr {t' u' : PanelTelemetry} (submits : Submits may t u) (before : t'.history = t.history)
    (after : u'.history = u.history) : Submits may t' u' := by
  rcases submits with same | ⟨record, made, recorded⟩
  · exact .inl (after.trans (same.trans before.symm))
  · refine .inr ⟨record, made, after.trans (recorded.trans ?_)⟩
    obtain ⟨recent, last⟩ := Prod.mk.inj before
    simp only [history, recordSubmission, recent, last]

/-- At most one submission was made, and nothing was committed. -/
structure Reports (may : SubmissionRecord → Prop) (t u : PanelTelemetry) : Prop where
  submits : Submits may t u
  committedForeground : u.committedForeground = t.committedForeground
  committedInk : u.committedInk = t.committedInk
  committedLockEpoch : u.committedLockEpoch = t.committedLockEpoch

theorem Reports.refl (may : SubmissionRecord → Prop) (t : PanelTelemetry) : Reports may t t :=
  ⟨.refl may t, rfl, rfl, rfl⟩

theorem Reports.weaken (reports : Reports may t u) (also : ∀ record, may record → other record) : Reports other t u :=
  ⟨reports.submits.weaken also, reports.committedForeground, reports.committedInk, reports.committedLockEpoch⟩

end PanelTelemetry

namespace PanelRuntime
variable (env : PanelEnv) {p q : PanelRuntime}
open PanelTelemetry

/-! ## Records -/

theorem submit_reports (rect : Rect) (intent : RefreshIntent) (lease : PanelLease) (sequence : Nat)
    (reason : SubmissionReason) :
    Reports (fun record => record.lease = lease ∧ record.reason = reason ∧ record.surfaceSequence = sequence ∧
      record.success = env.marker.isSome) p.telemetry (p.submit env rect intent lease sequence reason).2.telemetry := by
  unfold submit
  cases marker : env.marker with
  | none => exact ⟨.inr ⟨_, ⟨rfl, rfl, rfl, rfl⟩, rfl⟩, rfl, rfl, rfl⟩
  | some marked => exact ⟨.inr ⟨_, ⟨rfl, rfl, rfl, rfl⟩, rfl⟩, rfl, rfl, rfl⟩

/-- The record tells of a picture of the lease's surface, as it was committed then. -/
def Pictured (env : PanelEnv) (p : PanelRuntime) (lease : PanelLease) (reason : SubmissionReason)
    (record : SubmissionRecord) : Prop :=
  record.lease = lease ∧ record.reason = reason ∧ record.success = env.marker.isSome ∧
    ∃ shmKey, p.surfaces lease.key = some shmKey ∧ record.surfaceSequence = (env.shm shmKey).commitSequence

/-- A presentation submits the copy that it makes. -/
theorem presentSurface_reports (lease : PanelLease) (rect : Rect) (intent : RefreshIntent) (reason : SubmissionReason) :
    Reports (p.Pictured env lease reason) p.telemetry (p.presentSurface env lease rect intent reason).2.telemetry := by
  unfold presentSurface
  by_cases visible : p.foreground = some lease
  · cases registered : p.surfaces lease.key with
    | none => simpa [visible] using Reports.refl _ _
    | some shmKey =>
      simp only [visible, ne_eq, not_true_eq_false, if_false]
      by_cases empty : (rect.clip (env.shm shmKey).width (env.shm shmKey).height).isEmpty = true
      · simpa [empty] using Reports.refl _ _
      · simp only [empty, Bool.false_eq_true, if_false]
        generalize clipped : rect.clip (env.shm shmKey).width (env.shm shmKey).height = r
        generalize mapped : (p.geometryForLogical (env.shm shmKey)).logicalToPhysicalRect r = physical
        have reports := submit_reports env (p := p.copySurface env shmKey r) physical
          (effectiveIntent (env.shm shmKey) intent) lease (env.shm shmKey).commitSequence reason
        unfold Outcome.andThen
        rcases submitted : (p.copySurface env shmKey r).submit env physical
          (effectiveIntent (env.shm shmKey) intent) lease (env.shm shmKey).commitSequence reason with ⟨result, q⟩
        rw [submitted] at reports
        have made : Reports (p.Pictured env lease reason) p.telemetry q.telemetry :=
          reports.weaken fun record made => ⟨made.1, made.2.1, made.2.2.2, shmKey, registered, made.2.2.1⟩
        cases result with
        | error error => exact made
        | ok _ => exact ⟨made.submits, made.committedForeground, made.committedInk, made.committedLockEpoch⟩
  · simpa [visible] using Reports.refl _ _

theorem flushLive_reports (force : Bool) :
    Reports (fun record => record.lease = p.ink.lease ∧ record.reason = .liveInk ∧ record.success = env.marker.isSome)
      p.telemetry (p.flushLive env force).2.telemetry := by
  unfold flushLive
  by_cases idle : p.liveDirty.isEmpty = true ∨ (!force) = true ∧ env.now - p.lastLiveSubmit < liveSwapInterval
  · rw [if_pos idle]
    exact .refl _ _
  rw [if_neg idle]
  dsimp only
  by_cases empty : (p.liveDirty.clip p.backend.width p.backend.height).isEmpty = true
  · rw [if_pos empty]
    exact .refl _ _
  rw [if_neg empty]
  generalize p.liveDirty.clip p.backend.width p.backend.height = dirty
  generalize sequence : commitSequence env { p with liveDirty := default } p.ink.key = n
  have reports := submit_reports env (p := { p with liveDirty := default }) dirty .ink p.ink.lease n .liveInk
  unfold Outcome.andThen
  rcases submitted : submit env { p with liveDirty := default } dirty .ink p.ink.lease n .liveInk with ⟨result, q⟩
  rw [submitted] at reports
  have made : Reports (fun record => record.lease = p.ink.lease ∧ record.reason = .liveInk ∧
      record.success = env.marker.isSome) p.telemetry q.telemetry :=
    reports.weaken fun record made => ⟨made.1, made.2.1, made.2.2.2⟩
  cases result with
  | error error => exact made
  | ok _ => exact ⟨made.submits, made.committedForeground, made.committedInk, made.committedLockEpoch⟩

theorem drawLiveSegment_telemetry (tool : PenTool) (x0 y0 x1 y1 radius : Int) :
    (p.drawLiveSegment env tool x0 y0 x1 y1 radius).telemetry = p.telemetry := by
  unfold drawLiveSegment
  split <;> rfl

/-- A pen frame submits at most the live ink of the lease that it is for. -/
theorem handlePen_reports (lease : PanelLease) (frame : PenFrame) :
    (p.handlePen env lease frame).2.ink = p.ink ∧
    Reports (fun record => record.lease = lease ∧ record.reason = .liveInk ∧ record.success = env.marker.isSome)
      p.telemetry (p.handlePen env lease frame).2.telemetry := by
  refine ⟨(handlePen_spec env lease frame).ink, ?_⟩
  unfold handlePen
  cases valid : p.penLeaseValid lease frame with
  | false => exact .refl _ _
  | true =>
    have same : p.ink.lease = lease := by
      simp only [penLeaseValid, Bool.and_eq_true, decide_eq_true_eq] at valid
      exact valid.1.2
    cases frame.phase with
    | down =>
      simp only [Bool.not_true, Bool.false_eq_true, if_false, beginPen, drawLiveSegment_telemetry]
      exact .refl _ _
    | move =>
      cases p.activePen with
      | false => exact .refl _ _
      | true =>
        simp only [Bool.not_true, Bool.false_eq_true, if_false, if_true, movePen, drawLiveSegment_telemetry]
        exact .refl _ _
    | up =>
      cases p.activePen with
      | false => exact .refl _ _
      | true =>
        simp only [Bool.not_true, Bool.false_eq_true, if_false, if_true, endPen]
        have reports := flushLive_reports env (p := { p with
          activePen := false
          lastPen := none
          settleStarted := some env.now
          settleDeadline := some (env.now + canonicalSettleDelay) }) true
        exact reports.weaken fun record made => ⟨made.1.trans same, made.2⟩
    | cancel => exact .refl _ _

theorem handleDamage_reports (lease : PanelLease) (rect : Rect) (intent : RefreshIntent) :
    (p.handleDamage env lease rect intent).2.ink = p.ink ∧
    Reports (p.Pictured env lease .surfaceDamage) p.telemetry (p.handleDamage env lease rect intent).2.telemetry := by
  obtain ⟨dirty, view⟩ := handleDamage_view env (p := p) lease rect intent
  refine ⟨view.ink, ?_⟩
  unfold handleDamage
  split
  · exact .refl _ _
  split
  · exact .refl _ _
  · exact presentSurface_reports env lease rect intent .surfaceDamage

end PanelRuntime

/-- The lease that a command submits pictures of, and the reason that they carry. -/
def PanelCommand.reason : PanelCommand → Option (PanelLease × SubmissionReason)
  | .damage lease _ _ => some (lease, .surfaceDamage)
  | .setForeground lease _ => some (lease, .foregroundSwitch)
  | .activateForeground lease _ _ => some (lease, .foregroundSwitch)
  | .pen lease _ => some (lease, .liveInk)
  | .fullRefresh lease => some (lease, .fullRefresh)
  | .showLock lease _ => some (lease, .lockScreen)
  | .refreshLock lease _ => some (lease, .lockRefresh)
  | .cancelLock lease _ _ => some (lease, .unlockScreen)
  | _ => none

/-- The record tells of this command and of whether the vendor library took its picture;
    but for live ink and a lock's frozen frame that is a picture of the surface. -/
structure PanelCommand.Submitted (env : PanelEnv) (p : PanelRuntime) (command : PanelCommand)
    (record : SubmissionRecord) : Prop where
  reason : command.reason = some (record.lease, record.reason)
  success : record.success = env.marker.isSome
  pictured : record.reason ≠ .liveInk → record.reason ≠ .lockRefresh →
    p.Pictured env record.lease record.reason record
  succeeded : record.reason = .unlockScreen → record.success = true → (p.handle env command).1 = .ok ()

namespace PanelRuntime
variable (env : PanelEnv) {p q : PanelRuntime} {lease : PanelLease}
open PanelTelemetry

theorem discardReplaced_history (lease : PanelLease) :
    (p.discardReplaced lease).telemetry.history = p.telemetry.history ∧
      (p.discardReplaced lease).telemetry.committedInk = p.telemetry.committedInk := by
  unfold discardReplaced
  cases p.foreground with
  | none => exact ⟨rfl, rfl⟩
  | some previous => by_cases other : previous ≠ lease <;> simp [other, discardDeferredDamage, history]

/-- What an attempt to switch submits, and the ink policy that it leaves committed. -/
structure SwitchTold (p : PanelRuntime) (lease : PanelLease) (enabled : Bool) (reason : SubmissionReason)
    (outcome : Outcome) : Prop where
  submits : Submits (p.Pictured env lease reason) p.telemetry outcome.2.telemetry
  accepted : outcome.1 = .ok () → outcome.2.telemetry.committedInk = some (lease, enabled) ∧
    outcome.2.ink.enabled = enabled ∧ (enabled = true → outcome.2.ink.lease = lease)
  refused : ∀ error, outcome.1 = .error error → isStaleControlError error = true → outcome.2 = p
  failed : ∀ error, outcome.1 = .error error → outcome.2.telemetry.committedInk = p.telemetry.committedInk

/-- The presentation of a switch that has begun, told of by its telemetry. -/
theorem switched_told (shmKey : Nat) (intent : RefreshIntent) (reason : SubmissionReason) {ink : InkLease}
    {started : PanelRuntime}
    (begun : started = { (p.discardReplaced lease).abortInk with ink := ink, foreground := some lease }) :
    Submits (p.Pictured env lease reason) p.telemetry
        (started.presentSurface env lease (env.shm shmKey).fullRect intent reason).2.telemetry ∧
      (started.presentSurface env lease (env.shm shmKey).fullRect intent reason).2.ink = ink ∧
      (started.presentSurface env lease (env.shm shmKey).fullRect intent reason).2.telemetry.committedInk =
        p.telemetry.committedInk ∧
      ∀ error, (started.presentSurface env lease (env.shm shmKey).fullRect intent reason).1 = .error error →
        isStaleControlError error = false := by
  have reports := presentSurface_reports env (p := started) lease (env.shm shmKey).fullRect intent reason
  have before : p.telemetry.history = started.telemetry.history := by
    rw [begun]
    exact (discardReplaced_history lease).1.symm
  have surfaces : started.surfaces = p.surfaces := by
    rw [begun]
    exact (discardReplaced_view lease).1
  refine ⟨(reports.submits.weaken fun record made => ?_).congr before rfl, ?_, ?_, ?_⟩
  · simpa only [Pictured, surfaces] using made
  · rw [(presentSurface_view env lease (env.shm shmKey).fullRect intent reason).1.ink, begun]
  · rw [reports.committedInk, begun]
    exact (discardReplaced_history lease).2
  · intro error failed
    rw [presentSurface_result] at failed
    split at failed
    · cases failed
      rfl
    · cases failed

theorem setForegroundWith_told (lease : PanelLease) (intent : RefreshIntent) (reason : SubmissionReason) :
    SwitchTold env p lease false reason (p.setForegroundWith env lease intent reason) := by
  unfold setForegroundWith surface
  cases registered : p.surfaces lease.key with
  | none => exact ⟨.refl _ _, by simp, fun _ _ _ => rfl, fun _ _ => rfl⟩
  | some shmKey =>
    simp only [Option.map_some]
    generalize begun : { (p.discardReplaced lease).abortInk with ink := default, foreground := some lease } = started
    obtain ⟨submits, ink, committed, vendor⟩ := switched_told env shmKey intent reason begun.symm
    rcases presented : started.presentSurface env lease (env.shm shmKey).fullRect intent reason with ⟨result, q⟩
    rw [presented] at submits ink committed vendor
    cases result with
    | error error =>
      refine ⟨submits, by simp, ?_, fun _ _ => committed⟩
      intro other same stale
      cases same
      exact absurd (stale.symm.trans (vendor error rfl)) (by simp)
    | ok _ =>
      have ink : q.ink = default := ink
      refine ⟨submits.congr rfl rfl, fun _ => ⟨rfl, ?_, by simp⟩, by simp, by simp⟩
      simp only [ink]
      rfl

theorem activateForeground_told (lease : PanelLease) (inkEnabled fullRefresh : Bool) :
    SwitchTold env p lease inkEnabled .foregroundSwitch (p.activateForeground env lease inkEnabled fullRefresh) := by
  unfold activateForeground surface
  cases registered : p.surfaces lease.key with
  | none => exact ⟨.refl _ _, by simp, fun _ _ _ => rfl, fun _ _ => rfl⟩
  | some shmKey =>
    simp only [Option.map_some]
    generalize begun : ({ (p.discardReplaced lease).abortInk with
      foreground := some lease
      ink := ⟨lease.key, lease.generation, lease.foregroundEpoch, inkEnabled, none⟩ } : PanelRuntime) = started
    obtain ⟨submits, ink, committed, vendor⟩ :=
      switched_told env shmKey (foregroundIntent (env.shm shmKey) fullRefresh) .foregroundSwitch begun.symm
    rcases presented : started.presentSurface env lease (env.shm shmKey).fullRect
      (foregroundIntent (env.shm shmKey) fullRefresh) .foregroundSwitch with ⟨result, q⟩
    rw [presented] at submits ink committed vendor
    cases result with
    | error error =>
      refine ⟨submits, by simp, ?_, fun _ _ => committed⟩
      intro other same stale
      cases same
      exact absurd (stale.symm.trans (vendor error rfl)) (by simp)
    | ok _ =>
      have ink : q.ink = ⟨lease.key, lease.generation, lease.foregroundEpoch, inkEnabled, none⟩ := ink
      refine ⟨submits.congr rfl rfl, fun _ => ⟨rfl, ?_, fun _ => ?_⟩, by simp, by simp⟩
      · simp only [ink]
      · simp only [ink, InkLease.lease]

theorem setForeground_told (lease : PanelLease) (fullRefresh : Bool) :
    SwitchTold env p lease false .foregroundSwitch (p.setForeground env lease fullRefresh) := by
  unfold setForeground
  cases p.surface env lease.key with
  | none => exact ⟨.refl _ _, by simp, fun _ _ _ => rfl, fun _ _ => rfl⟩
  | some surface => exact setForegroundWith_told env lease _ _

/-- `show_lock` commits what its switch does, and then the lock. -/
theorem showLock_told (lease : PanelLease) (sleepEpoch : Nat) :
    ∃ outcome, SwitchTold env p lease false .lockScreen outcome ∧ outcome = p.setForegroundWith env lease .full .lockScreen ∧
      ((p.showLock env lease sleepEpoch).2 = outcome.2 ∧
          (∃ error, (p.showLock env lease sleepEpoch).1 = .error error ∧
            (isStaleControlError error = true → outcome.1 = .error error)) ∨
        outcome.1 = .ok () ∧ ∃ sequence, outcome.2.telemetry.lastPresented = some (lease.key, sequence) ∧ 0 < sequence ∧
          (p.showLock env lease sleepEpoch) = (.ok (), { outcome.2 with
            lock := some ⟨sleepEpoch, lease, sequence⟩
            telemetry := outcome.2.telemetry.commitLock sleepEpoch })) := by
  refine ⟨_, setForegroundWith_told env lease .full .lockScreen, rfl, ?_⟩
  unfold showLock Outcome.andThen
  rcases p.setForegroundWith env lease .full .lockScreen with ⟨result, q⟩
  cases result with
  | error error => exact .inl ⟨rfl, error, rfl, fun _ => rfl⟩
  | ok _ =>
    cases presented : q.telemetry.lastPresented with
    | none =>
      left
      simp only [presented]
      exact ⟨trivial, _, rfl, fun stale => by cases stale⟩
    | some last =>
      obtain ⟨key, sequence⟩ := last
      simp only [presented]
      by_cases recorded : key = lease.key ∧ sequence > 0
      · right
        obtain ⟨rfl, positive⟩ := recorded
        exact ⟨trivial, sequence, rfl, positive, by simp [positive]⟩
      · left
        rw [if_neg recorded]
        exact ⟨rfl, _, rfl, fun stale => by cases stale⟩

theorem cancelLock_reports (lease : PanelLease) (sleepEpoch sequence : Nat) :
    (p.cancelLock env lease sleepEpoch sequence).2.ink = p.ink ∧
    (p.cancelLock env lease sleepEpoch sequence).2.telemetry.committedInk = p.telemetry.committedInk ∧
    Submits (fun record => p.Pictured env lease .unlockScreen record ∧
        (record.success = true → (p.cancelLock env lease sleepEpoch sequence).1 = .ok ()))
      p.telemetry (p.cancelLock env lease sleepEpoch sequence).2.telemetry := by
  unfold cancelLock
  split
  · exact ⟨rfl, rfl, .refl _ _⟩
  split
  · exact ⟨rfl, rfl, .refl _ _⟩
  dsimp only
  split
  · exact ⟨rfl, rfl, .refl _ _⟩
  rename_i surface _ _
  have view := (presentSurface_view env (p := p) lease surface.fullRect .full .unlockScreen).1
  have reports := presentSurface_reports env (p := p) lease surface.fullRect .full .unlockScreen
  have result := presentSurface_result env (p := p) lease surface.fullRect .full .unlockScreen
  rcases presented : p.presentSurface env lease surface.fullRect .full .unlockScreen with ⟨outcome, q⟩
  rw [presented] at view reports result
  cases outcome with
  | error error =>
    refine ⟨view.ink, reports.committedInk, reports.submits.weaken fun record made => ⟨made, ?_⟩⟩
    intro success
    have refused : env.marker ≠ none := by
      intro unmarked
      rw [made.2.2.1, unmarked] at success
      cases success
    rw [if_neg fun both => refused both.2] at result
    cases result
  | ok _ =>
    exact ⟨view.ink, reports.committedInk, (reports.submits.weaken fun record made => ⟨made, fun _ => rfl⟩).congr rfl rfl⟩

theorem refreshLock_reports (lease : PanelLease) (sleepEpoch : Nat) :
    Reports (fun record => record.lease = lease ∧ record.reason = .lockRefresh ∧ record.success = env.marker.isSome)
      p.telemetry (p.refreshLock env lease sleepEpoch).2.telemetry := by
  unfold refreshLock
  cases p.lock with
  | none => exact .refl _ _
  | some lock =>
    dsimp only
    split
    · exact .refl _ _
    have reports : Reports (fun record => record.lease = lease ∧ record.reason = .lockRefresh ∧
        record.success = env.marker.isSome) p.telemetry
        (p.submit env ⟨0, 0, p.backend.width, p.backend.height⟩ .full lease lock.frozenSurfaceSequence
          .lockRefresh).2.telemetry :=
      (submit_reports env _ _ _ _ _).weaken fun record made => ⟨made.1, made.2.1, made.2.2.2⟩
    unfold Outcome.andThen
    rcases submitted : p.submit env ⟨0, 0, p.backend.width, p.backend.height⟩ .full lease
      lock.frozenSurfaceSequence .lockRefresh with ⟨result, q⟩
    rw [submitted] at reports
    cases result with
    | error error => exact reports
    | ok _ => exact ⟨reports.submits, reports.committedForeground, reports.committedInk, reports.committedLockEpoch⟩

theorem clearForegroundUnchecked_history :
    p.clearForegroundUnchecked.telemetry.history = p.telemetry.history ∧
    p.clearForegroundUnchecked.telemetry.committedLockEpoch = p.telemetry.committedLockEpoch := by
  rcases clearForegroundUnchecked_telemetry (p := p) with same | ⟨lease, same⟩
  · rw [same]
    exact ⟨rfl, rfl⟩
  · rw [same]
    exact ⟨rfl, rfl⟩

/-- Clearing the foreground leaves no ink policy committed for it. -/
theorem clearForegroundUnchecked_ink {policy : PanelLease × Bool}
    (committed : p.clearForegroundUnchecked.telemetry.committedInk = some policy) :
    p.telemetry.committedInk = some policy ∧ p.foreground ≠ some policy.1 := by
  cases shows : p.foreground with
  | none => simpa [clearForegroundUnchecked, shows, abortInk] using committed
  | some lease =>
    have cleared : p.clearForegroundUnchecked.telemetry.committedInk =
        if p.telemetry.committedInk.map Prod.fst = some lease then none else p.telemetry.committedInk := by
      unfold clearForegroundUnchecked
      rw [shows]
      rfl
    rw [cleared] at committed
    by_cases owner : p.telemetry.committedInk.map Prod.fst = some lease
    · rw [if_pos owner] at committed
      cases committed
    · rw [if_neg owner] at committed
      refine ⟨committed, ?_⟩
      intro same
      rw [committed] at owner
      exact owner same.symm

/-- A dropped surface ends its foreground or changes no more than the deferred damage. -/
theorem dropSurface_told (key : Int) :
    ∃ kept : PanelRuntime, kept.telemetry.history = p.telemetry.history ∧
      kept.telemetry.committedForeground = p.telemetry.committedForeground ∧
      kept.telemetry.committedInk = p.telemetry.committedInk ∧
      kept.telemetry.committedLockEpoch = p.telemetry.committedLockEpoch ∧
      kept.foreground = p.foreground ∧ kept.lock = p.lock ∧ kept.ink = p.ink ∧
      (p.dropSurface key = kept ∨ p.dropSurface key = kept.clearForegroundUnchecked) := by
  refine ⟨{ p with
    surfaces := Function.update p.surfaces key none
    telemetry := p.telemetry.discardDeferredDamageForKey key }, rfl, rfl, rfl, rfl, rfl, rfl, rfl, ?_⟩
  unfold dropSurface
  dsimp only
  split
  · exact .inl rfl
  split
  · exact .inr rfl
  · exact .inl rfl

/-- A command submits at most one picture, and its record tells of the command. -/
theorem handle_submits (command : PanelCommand) :
    Submits (command.Submitted env p) p.telemetry (p.handle env command).2.telemetry := by
  have told : ∀ {lease : PanelLease} {reason : SubmissionReason} {t u : PanelTelemetry},
      command.reason = some (lease, reason) → reason ≠ .unlockScreen → Submits (p.Pictured env lease reason) t u →
      Submits (command.Submitted env p) t u := by
    intro lease reason t u named other submits
    refine submits.weaken ?_
    intro record made
    have named : command.reason = some (record.lease, record.reason) := by rw [made.1, made.2.1, named]
    refine ⟨named, made.2.2.1, fun _ _ => ?_, fun same => absurd (made.2.1.symm.trans same) other⟩
    rw [made.1, made.2.1]
    exact made
  cases command with
  | registerSurface key shmKey => exact .refl _ _
  | dropSurface key =>
    obtain ⟨kept, same, _, _, _, _, _, _, dropped | dropped⟩ := dropSurface_told (p := p) key
    · simp only [handle, dropped]
      exact .inl same
    · simp only [handle, dropped]
      exact .inl (clearForegroundUnchecked_history.1.trans same)
  | damage lease rect intent => exact told rfl (by simp) (handleDamage_reports env lease rect intent).2.submits
  | setForeground lease fullRefresh => exact told rfl (by simp) (setForeground_told env lease fullRefresh).submits
  | activateForeground lease inkEnabled fullRefresh =>
    exact told rfl (by simp) (activateForeground_told env lease inkEnabled fullRefresh).submits
  | clearForeground lease =>
    rcases clearForeground_spec (p := p) lease with ⟨same, _⟩ | ⟨cleared, _⟩
    · simp only [handle, same]
      exact .refl _ _
    · simp only [handle, cleared]
      exact .inl clearForegroundUnchecked_history.1
  | configureInk lease enabled region =>
    rcases configureInk_spec (p := p) lease enabled region with ⟨error, refused⟩ | ⟨_, configured⟩
    · simp only [handle, refused]
      exact .refl _ _
    · simp only [handle, configured]
      exact .inl rfl
  | pen lease frame =>
    refine (handlePen_reports env lease frame).2.submits.weaken ?_
    rintro record ⟨rfl, ink, success⟩
    exact ⟨by rw [ink]; rfl, success, fun other => absurd ink other, by simp [ink]⟩
  | fullRefresh lease =>
    rcases fullRefresh_spec env (p := p) lease with same | ⟨rect, presented⟩
    · simp only [handle, same]
      exact .refl _ _
    · simp only [handle, presented]
      exact told rfl (by simp) (presentSurface_reports env lease rect .full .fullRefresh).submits
  | showLock lease sleepEpoch =>
    obtain ⟨outcome, switch, _, ⟨same, _⟩ | ⟨_, sequence, _, _, locked⟩⟩ := showLock_told env (p := p) lease sleepEpoch
    · simp only [handle, same]
      exact told rfl (by simp) switch.submits
    · simp only [handle, locked]
      exact told rfl (by simp) (switch.submits.congr rfl rfl)
  | refreshLock lease sleepEpoch =>
    refine (refreshLock_reports env lease sleepEpoch).submits.weaken ?_
    rintro record ⟨rfl, refreshes, success⟩
    exact ⟨by rw [refreshes]; rfl, success, fun _ other => absurd refreshes other, by simp [refreshes]⟩
  | cancelLock lease sleepEpoch sequence =>
    refine (cancelLock_reports env lease sleepEpoch sequence).2.2.weaken ?_
    rintro record ⟨made, succeeded⟩
    refine ⟨by rw [made.1, made.2.1]; rfl, made.2.2.1, fun _ _ => ?_, fun _ => succeeded⟩
    rw [made.1, made.2.1]
    exact made
  | shutdown => exact .refl _ _

/-! ## Commitments -/

/-- The committed foreground and the committed lock are the worker's own. -/
structure Announced (p : PanelRuntime) : Prop where
  foreground : p.telemetry.committedForeground = p.foreground
  lock : p.telemetry.committedLockEpoch = (p.lock.map PanelLock.sleepEpoch).getD 0

theorem new_announced (backend : PanelBackend) : (new backend).Announced := ⟨rfl, rfl⟩

theorem Announced.view (announced : p.Announced) (view : SameView p q) : q.Announced := by
  constructor
  · rw [view.committedForeground, view.foreground, announced.foreground]
  · rw [view.committedLockEpoch, view.lock, announced.lock]

variable {env} in
theorem SwitchOutcome.announced {outcome : Outcome} (switch : SwitchOutcome env p lease outcome)
    (announced : p.Announced) : outcome.2.Announced := by
  rcases switch with ⟨_, same, _⟩ | ⟨shmKey, _, switched, _⟩
  · rw [same]
    exact announced
  · constructor
    · rw [switched.committedForeground, switched.foreground, announced.foreground]
    · rw [switched.committedLockEpoch, switched.lock, announced.lock]

theorem clearForegroundUnchecked_announced (announced : p.Announced) : p.clearForegroundUnchecked.Announced := by
  constructor
  · unfold clearForegroundUnchecked
    cases shows : p.foreground with
    | none => exact announced.foreground.trans shows
    | some lease => exact if_pos (announced.foreground.trans shows)
  · exact clearForegroundUnchecked_history.2.trans announced.lock

/-- No command leaves the commitments behind. -/
theorem handle_announced (command : PanelCommand) (announced : p.Announced) : (p.handle env command).2.Announced := by
  cases command with
  | registerSurface key shmKey => exact ⟨announced.foreground, announced.lock⟩
  | dropSurface key =>
    obtain ⟨kept, _, committed, _, epoch, foreground, lock, _, dropped⟩ := dropSurface_told (p := p) key
    have still : kept.Announced := by
      constructor
      · rw [committed, foreground, announced.foreground]
      · rw [epoch, lock, announced.lock]
    rcases dropped with dropped | dropped
    · simp only [handle, dropped]
      exact still
    · simp only [handle, dropped]
      exact clearForegroundUnchecked_announced still
  | damage lease rect intent =>
    obtain ⟨dirty, view⟩ := handleDamage_view env (p := p) lease rect intent
    exact Announced.view (p := { p with canonicalDirty := dirty }) ⟨announced.foreground, announced.lock⟩ view
  | setForeground lease fullRefresh => exact (setForeground_spec env lease fullRefresh).announced announced
  | activateForeground lease inkEnabled fullRefresh =>
    exact (activateForeground_spec env lease inkEnabled fullRefresh).announced announced
  | clearForeground lease =>
    rcases clearForeground_spec (p := p) lease with ⟨same, _⟩ | ⟨cleared, _⟩
    · simp only [handle, same]
      exact announced
    · simp only [handle, cleared]
      exact clearForegroundUnchecked_announced announced
  | configureInk lease enabled region =>
    rcases configureInk_spec (p := p) lease enabled region with ⟨error, refused⟩ | ⟨_, configured⟩
    · simp only [handle, refused]
      exact announced
    · simp only [handle, configured]
      exact ⟨announced.foreground, announced.lock⟩
  | pen lease frame =>
    have step := handlePen_spec env (p := p) lease frame
    have reports := (handlePen_reports env (p := p) lease frame).2
    constructor
    · exact step.committedForeground.trans (announced.foreground.trans step.foreground.symm)
    · simp only [handle]
      rw [reports.committedLockEpoch, step.lock, announced.lock]
  | fullRefresh lease =>
    rcases fullRefresh_spec env (p := p) lease with same | ⟨rect, presented⟩
    · simp only [handle, same]
      exact announced
    · simp only [handle, presented]
      exact announced.view (presentSurface_view env lease rect .full .fullRefresh).1
  | showLock lease sleepEpoch =>
    obtain ⟨result, q, switch, same | ⟨_, sequence, locked⟩⟩ := showLock_spec env (p := p) lease sleepEpoch
    · simp only [handle, same]
      exact switch.announced announced
    · simp only [handle, locked]
      exact ⟨(switch.announced announced).foreground, rfl⟩
  | refreshLock lease sleepEpoch => exact announced.view (refreshLock_spec env lease sleepEpoch).1
  | cancelLock lease sleepEpoch sequence =>
    have spec := cancelLock_spec env (p := p) lease sleepEpoch sequence
    simp only [handle]
    generalize p.cancelLock env lease sleepEpoch sequence = outcome at spec
    cases spec with
    | failed error q view backend => exact announced.view view
    | released q shmKey holds registered positive reached presented =>
      have view := (presentSurface_view env (p := p) lease (env.shm shmKey).fullRect .full .unlockScreen).1
      rw [presented] at view
      have still : q.Announced := announced.view view
      refine ⟨still.foreground, ?_⟩
      have held : q.telemetry.committedLockEpoch = sleepEpoch := by
        rw [still.lock, view.lock]
        cases lock : p.lock with
        | none => simp [holdsLock, lock] at holds
        | some locked =>
          simp only [holdsLock, lock, Option.any_some, Bool.and_eq_true, decide_eq_true_eq] at holds
          exact holds.1
      exact if_pos held
  | shutdown => exact announced

/-- The committed ink policy is the worker's own. -/
def InkTold (p : PanelRuntime) : Prop :=
  ∀ lease, p.telemetry.committedInk = some (lease, true) ↔ p.ink.enabled = true ∧ p.ink.lease = lease

theorem new_inkTold (backend : PanelBackend) : (new backend).InkTold := by
  intro lease
  simp [new, default]

theorem InkTold.same (told : p.InkTold) (ink : q.ink = p.ink) (committed : q.telemetry.committedInk = p.telemetry.committedInk) :
    q.InkTold := by
  intro lease
  rw [ink, committed]
  exact told lease

variable {env} in
theorem SwitchTold.inkTold {enabled : Bool} {reason : SubmissionReason} {outcome : Outcome}
    (switch : SwitchTold env p lease enabled reason outcome) (told : p.InkTold)
    (stale : ∀ error, outcome.1 = .error error → isStaleControlError error = true) : outcome.2.InkTold := by
  cases result : outcome.1 with
  | error error =>
    rw [switch.refused error result (stale error result)]
    exact told
  | ok _ =>
    obtain ⟨committed, policy, owner⟩ := switch.accepted result
    intro other
    rw [committed, policy]
    constructor
    · intro same
      obtain ⟨rfl, rfl⟩ := Prod.mk.inj (Option.some.inj same)
      exact ⟨rfl, owner rfl⟩
    · rintro ⟨rfl, rfl⟩
      rw [owner rfl]

theorem clearForegroundUnchecked_inkTold (told : p.InkTold)
    (held : p.ink.enabled = true → p.foreground = some p.ink.lease) : p.clearForegroundUnchecked.InkTold := by
  intro lease
  constructor
  · intro committed
    obtain ⟨before, other⟩ := clearForegroundUnchecked_ink committed
    obtain ⟨enabled, owner⟩ := (told lease).mp before
    exact absurd (owner ▸ held enabled) other
  · rintro ⟨enabled, _⟩
    simp [clearForegroundUnchecked, default] at enabled

/-- A command that does not end the worker leaves the ink policy told as it is. -/
theorem handle_inkTold (command : PanelCommand) (told : p.InkTold) (held : p.InkHeld)
    (stale : ∀ error, (p.handle env command).1 = .error error → isStaleControlError error = true) :
    (p.handle env command).2.InkTold := by
  cases command with
  | registerSurface key shmKey => exact told.same rfl rfl
  | dropSurface key =>
    obtain ⟨kept, _, _, committed, _, foreground, _, ink, dropped⟩ := dropSurface_told (p := p) key
    rcases dropped with dropped | dropped
    · simp only [handle, dropped]
      exact told.same ink committed
    · simp only [handle, dropped]
      exact clearForegroundUnchecked_inkTold (told.same ink committed) (by rw [ink, foreground]; exact held.1)
  | damage lease rect intent =>
    obtain ⟨ink, reports⟩ := handleDamage_reports env (p := p) lease rect intent
    exact told.same ink reports.committedInk
  | setForeground lease fullRefresh => exact (setForeground_told env lease fullRefresh).inkTold told stale
  | activateForeground lease inkEnabled fullRefresh =>
    exact (activateForeground_told env lease inkEnabled fullRefresh).inkTold told stale
  | clearForeground lease =>
    rcases clearForeground_spec (p := p) lease with ⟨same, _⟩ | ⟨cleared, _⟩
    · simp only [handle, same]
      exact told
    · simp only [handle, cleared]
      exact clearForegroundUnchecked_inkTold told held.1
  | configureInk lease enabled region =>
    rcases configureInk_spec (p := p) lease enabled region with ⟨error, refused⟩ | ⟨_, configured⟩
    · simp only [handle, refused]
      exact told
    · simp only [handle, configured]
      intro other
      constructor
      · intro same
        obtain ⟨rfl, rfl⟩ := Prod.mk.inj (Option.some.inj same)
        exact ⟨rfl, rfl⟩
      · rintro ⟨rfl, rfl⟩
        rfl
  | pen lease frame =>
    obtain ⟨ink, reports⟩ := handlePen_reports env (p := p) lease frame
    exact told.same ink reports.committedInk
  | fullRefresh lease =>
    rcases fullRefresh_spec env (p := p) lease with same | ⟨rect, presented⟩
    · simp only [handle, same]
      exact told
    · simp only [handle, presented]
      exact told.same (presentSurface_view env lease rect .full .fullRefresh).1.ink
        (presentSurface_reports env lease rect .full .fullRefresh).committedInk
  | showLock lease sleepEpoch =>
    simp only [handle] at stale ⊢
    obtain ⟨outcome, switch, _, ⟨same, error, failed, refused⟩ | ⟨accepted, sequence, _, _, locked⟩⟩ :=
      showLock_told env (p := p) lease sleepEpoch
    · have old := stale error failed
      rw [same, switch.refused error (refused old) old]
      exact told
    · rw [locked]
      exact (switch.inkTold told (by simp [accepted])).same rfl rfl
  | refreshLock lease sleepEpoch =>
    exact told.same (refreshLock_spec env lease sleepEpoch).1.ink (refreshLock_reports env lease sleepEpoch).committedInk
  | cancelLock lease sleepEpoch sequence =>
    obtain ⟨ink, committed, _⟩ := cancelLock_reports env (p := p) lease sleepEpoch sequence
    exact told.same ink committed
  | shutdown => exact told

/-- A command that fails commits no ink. -/
theorem handle_failed (command : PanelCommand) {error : IoError} (failed : (p.handle env command).1 = .error error)
    (committed : (p.handle env command).2.telemetry.committedInk = some (lease, true)) :
    p.telemetry.committedInk = some (lease, true) := by
  cases command with
  | registerSurface key shmKey => cases failed
  | dropSurface key => cases failed
  | damage lease rect intent => exact (handleDamage_reports env lease rect intent).2.committedInk.symm.trans committed
  | setForeground lease fullRefresh =>
    exact ((setForeground_told env lease fullRefresh).failed error failed).symm.trans committed
  | activateForeground lease inkEnabled fullRefresh =>
    exact ((activateForeground_told env lease inkEnabled fullRefresh).failed error failed).symm.trans committed
  | clearForeground lease => cases failed
  | configureInk lease enabled region =>
    rcases configureInk_spec (p := p) lease enabled region with ⟨_, refused⟩ | ⟨_, configured⟩
    · simp only [handle, refused] at committed
      exact committed
    · simp only [handle, configured] at failed
      cases failed
  | pen lease frame => exact (handlePen_reports env lease frame).2.committedInk.symm.trans committed
  | fullRefresh lease =>
    rcases fullRefresh_spec env (p := p) lease with same | ⟨rect, presented⟩
    · simp only [handle, same] at committed
      exact committed
    · simp only [handle, presented] at committed
      exact (presentSurface_reports env lease rect .full .fullRefresh).committedInk.symm.trans committed
  | showLock lease sleepEpoch =>
    simp only [handle] at failed committed
    obtain ⟨outcome, switch, _, ⟨same, _⟩ | ⟨accepted, sequence, _, _, locked⟩⟩ := showLock_told env (p := p) lease sleepEpoch
    · rw [same] at committed
      rcases result : outcome.1 with other | _
      · exact (switch.failed other result).symm.trans committed
      · rw [(switch.accepted result).1] at committed
        cases committed
    · rw [locked] at failed
      cases failed
  | refreshLock lease sleepEpoch => exact (refreshLock_reports env lease sleepEpoch).committedInk.symm.trans committed
  | cancelLock lease sleepEpoch sequence =>
    exact (cancelLock_reports env lease sleepEpoch sequence).2.1.symm.trans committed
  | shutdown => cases failed

end PanelRuntime
end Remagic.Display
