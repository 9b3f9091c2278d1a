import Remagic.Panel

/-!
# What the panel's building blocks leave alone

One specification for each block that the handlers share: a submission and a
presentation change no lease, no ink state and no accumulated damage, and a
switch of the foreground ends the stroke and copies the whole new surface.
-/

namespace Remagic.Display
namespace PanelRuntime

/-- `q` has the leases, the ink state and the accumulated damage of `p`; its
    pixels, copies, live damage and telemetry counters may differ. -/
structure SameView (p q : PanelRuntime) : Prop where
  surfaces : q.surfaces = p.surfaces
  foreground : q.foreground = p.foreground
  lock : q.lock = p.lock
  ink : q.ink = p.ink
  activePen : q.activePen = p.activePen
  canonicalDirty : q.canonicalDirty = p.canonicalDirty
  settleDeadline : q.settleDeadline = p.settleDeadline
  settleStarted : q.settleStarted = p.settleStarted
  inkBeginSequence : q.inkBeginSequence = p.inkBeginSequence
  deferredDamage : q.telemetry.deferredDamage = p.telemetry.deferredDamage
  committedForeground : q.telemetry.committedForeground = p.telemetry.committedForeground
  committedLockEpoch : q.telemetry.committedLockEpoch = p.telemetry.committedLockEpoch
  cancelledLockEpoch : q.telemetry.cancelledLockEpoch = p.telemetry.cancelledLockEpoch

theorem SameView.refl (p : PanelRuntime) : SameView p p :=
  ⟨rfl, rfl, rfl, rfl, rfl, rfl, rfl, rfl, rfl, rfl, rfl, rfl, rfl⟩

variable (env : PanelEnv) {p : PanelRuntime} {lease : PanelLease}

theorem submit_sameView (rect : Rect) (intent : RefreshIntent) (lease : PanelLease) (sequence : Nat)
    (reason : SubmissionReason) : SameView p (p.submit env rect intent lease sequence reason).2 := by
  unfold submit
  cases env.marker <;> exact ⟨rfl, rfl, rfl, rfl, rfl, rfl, rfl, rfl, rfl, rfl, rfl, rfl, rfl⟩

theorem submit_backend (rect : Rect) (intent : RefreshIntent) (lease : PanelLease) (sequence : Nat)
    (reason : SubmissionReason) : (p.submit env rect intent lease sequence reason).2.backend = p.backend := by
  unfold submit
  cases env.marker <;> rfl

/-- The copy that a presentation of `rect` for `lease` makes, if it makes one. -/
def presentedCopy (env : PanelEnv) (p : PanelRuntime) (lease : PanelLease) (rect : Rect) : Option Copy :=
  if p.foreground = some lease then
    (p.surfaces lease.key).bind fun shmKey =>
      let clipped := rect.clip (env.shm shmKey).width (env.shm shmKey).height
      if clipped.isEmpty then none else some ⟨shmKey, clipped, (env.shm shmKey).commitSequence⟩
  else none

theorem copySurface_sameView (shmKey : Nat) (rect : Rect) : SameView p (p.copySurface env shmKey rect) :=
  ⟨rfl, rfl, rfl, rfl, rfl, rfl, rfl, rfl, rfl, rfl, rfl, rfl, rfl⟩

theorem SameView.trans {p q r : PanelRuntime} (first : SameView p q) (second : SameView q r) : SameView p r := by
  constructor
  · exact second.surfaces.trans first.surfaces
  · exact second.foreground.trans first.foreground
  · exact second.lock.trans first.lock
  · exact second.ink.trans first.ink
  · exact second.activePen.trans first.activePen
  · exact second.canonicalDirty.trans first.canonicalDirty
  · exact second.settleDeadline.trans first.settleDeadline
  · exact second.settleStarted.trans first.settleStarted
  · exact second.inkBeginSequence.trans first.inkBeginSequence
  · exact second.deferredDamage.trans first.deferredDamage
  · exact second.committedForeground.trans first.committedForeground
  · exact second.committedLockEpoch.trans first.committedLockEpoch
  · exact second.cancelledLockEpoch.trans first.cancelledLockEpoch

/-- The framebuffer after a presentation, whatever the verdict on the submission. -/
def presentedBackend (env : PanelEnv) (p : PanelRuntime) (lease : PanelLease) (rect : Rect) : PanelBackend :=
  match p.presentedCopy env lease rect with
  | none => p.backend
  | some copy => (p.copySurface env copy.shmKey copy.rect).backend

/-- A presentation changes nothing but the picture: it makes its copy and submits it. -/
theorem presentSurface_view (lease : PanelLease) (rect : Rect) (intent : RefreshIntent) (reason : SubmissionReason) :
    SameView p (p.presentSurface env lease rect intent reason).2 ∧
    (p.presentSurface env lease rect intent reason).2.backend = p.presentedBackend env lease rect := by
  unfold presentSurface presentedBackend presentedCopy
  by_cases visible : p.foreground = some lease
  · cases registered : p.surfaces lease.key with
    | none => simp [visible, SameView.refl]
    | some shmKey =>
      simp only [visible, ne_eq, not_true_eq_false, if_false, if_true, Option.bind_some]
      by_cases empty : (rect.clip (env.shm shmKey).width (env.shm shmKey).height).isEmpty = true
      · simp [empty, SameView.refl]
      · simp only [empty, Bool.false_eq_true, if_false]
        generalize clipped : rect.clip (env.shm shmKey).width (env.shm shmKey).height = r
        generalize mapped : (p.geometryForLogical (env.shm shmKey)).logicalToPhysicalRect r = physical
        have view := (copySurface_sameView env (p := p) shmKey r).trans
          (submit_sameView env physical (effectiveIntent (env.shm shmKey) intent) lease
            (env.shm shmKey).commitSequence reason)
        have backend := submit_backend env (p := p.copySurface env shmKey r) physical
          (effectiveIntent (env.shm shmKey) intent) lease (env.shm shmKey).commitSequence reason
        unfold Outcome.andThen
        rcases submitted : (p.copySurface env shmKey r).submit env physical
          (effectiveIntent (env.shm shmKey) intent) lease (env.shm shmKey).commitSequence reason with ⟨result, q⟩
        rw [submitted] at view backend
        cases result with
        | error error => exact ⟨view, backend⟩
        | ok _ => exact ⟨view.trans ⟨rfl, rfl, rfl, rfl, rfl, rfl, rfl, rfl, rfl, rfl, rfl, rfl, rfl⟩, backend⟩
  · simp [visible, SameView.refl]

theorem presentedBackend_spec (lease : PanelLease) (rect : Rect) :
    (p.presentedBackend env lease rect).width = p.backend.width ∧
    (p.presentedBackend env lease rect).height = p.backend.height ∧
    (p.presentedBackend env lease rect).stride = p.backend.stride ∧
    (p.presentedBackend env lease rect).copies = p.backend.copies ++ (p.presentedCopy env lease rect).toList := by
  unfold presentedBackend
  cases made : p.presentedCopy env lease rect with
  | none => simp
  | some copy =>
    refine ⟨rfl, rfl, rfl, ?_⟩
    unfold presentedCopy at made
    split at made
    · obtain ⟨shmKey, _, same⟩ := Option.bind_eq_some_iff.mp made
      simp only at same
      split at same
      · cases same
      · cases same
        rfl
    · cases made

theorem presentSurface_spec (lease : PanelLease) (rect : Rect) (intent : RefreshIntent) (reason : SubmissionReason) :
    SameView p (p.presentSurface env lease rect intent reason).2 ∧
    (p.presentSurface env lease rect intent reason).2.backend.copies =
      p.backend.copies ++ (p.presentedCopy env lease rect).toList := by
  obtain ⟨view, backend⟩ := presentSurface_view env (p := p) lease rect intent reason
  exact ⟨view, backend ▸ (presentedBackend_spec env lease rect).2.2.2⟩

/-- A presentation fails only where the vendor library refuses a copy that was made. -/
theorem presentSurface_result (lease : PanelLease) (rect : Rect) (intent : RefreshIntent) (reason : SubmissionReason) :
    (p.presentSurface env lease rect intent reason).1 =
      if (p.presentedCopy env lease rect).isSome ∧ env.marker = none then
        .error ⟨.other, "quill rejected the panel submission"⟩ else .ok () := by
  unfold presentSurface presentedCopy
  by_cases visible : p.foreground = some lease
  · cases registered : p.surfaces lease.key with
    | none => simp [visible]
    | some shmKey =>
      simp only [visible, ne_eq, not_true_eq_false, if_false, if_true, Option.bind_some]
      by_cases empty : (rect.clip (env.shm shmKey).width (env.shm shmKey).height).isEmpty = true
      · simp [empty]
      · simp only [empty, Bool.false_eq_true, if_false, Option.isSome_some, true_and]
        unfold submit
        cases env.marker <;> rfl
  · simp [visible]

theorem flushLive_spec (force : Bool) :
    SameView p (p.flushLive env force).2 ∧ (p.flushLive env force).2.backend = p.backend := by
  unfold flushLive
  by_cases idle : p.liveDirty.isEmpty = true ∨ (!force) = true ∧ env.now - p.lastLiveSubmit < liveSwapInterval
  · simp only [idle, if_true]
    exact ⟨SameView.refl p, trivial⟩
  simp only [idle, if_false]
  have cleared : SameView p { p with liveDirty := default } :=
    ⟨rfl, rfl, rfl, rfl, rfl, rfl, rfl, rfl, rfl, rfl, rfl, rfl, rfl⟩
  by_cases empty : (p.liveDirty.clip p.backend.width p.backend.height).isEmpty = true
  · simp only [empty, if_true]
    exact ⟨cleared, trivial⟩
  simp only [empty, Bool.false_eq_true, if_false]
  generalize p.liveDirty.clip p.backend.width p.backend.height = dirty
  generalize sequence : commitSequence env { p with liveDirty := default } p.ink.key = n
  have view := cleared.trans (submit_sameView env dirty .ink p.ink.lease n .liveInk)
  have backend := submit_backend env (p := { p with liveDirty := default }) dirty .ink p.ink.lease n .liveInk
  unfold Outcome.andThen
  rcases submitted : submit env { p with liveDirty := default } dirty .ink p.ink.lease n .liveInk with ⟨result, q⟩
  rw [submitted] at view backend
  cases result with
  | error error => exact ⟨view, backend⟩
  | ok _ => exact ⟨view.trans ⟨rfl, rfl, rfl, rfl, rfl, rfl, rfl, rfl, rfl, rfl, rfl, rfl, rfl⟩, backend⟩

/-- Live ink marks the framebuffer and adds the mark to `canonical_dirty`. -/
theorem drawLiveSegment_spec (tool : PenTool) (x0 y0 x1 y1 radius : Int) :
    SameView { p with canonicalDirty := (p.drawLiveSegment env tool x0 y0 x1 y1 radius).canonicalDirty }
      (p.drawLiveSegment env tool x0 y0 x1 y1 radius) ∧
    (p.drawLiveSegment env tool x0 y0 x1 y1 radius).backend.copies = p.backend.copies ∧
    ((p.drawLiveSegment env tool x0 y0 x1 y1 radius).canonicalDirty = p.canonicalDirty ∨
      (p.drawLiveSegment env tool x0 y0 x1 y1 radius).canonicalDirty =
        p.canonicalDirty.union (Rect.expand ⟨x1, y1, 1, 1⟩ (saturate (radius + 3)))) := by
  unfold drawLiveSegment
  cases p.surface env p.ink.key with
  | none => exact ⟨SameView.refl p, rfl, .inl rfl⟩
  | some surface =>
    exact ⟨⟨rfl, rfl, rfl, rfl, rfl, rfl, rfl, rfl, rfl, rfl, rfl, rfl, rfl⟩, rfl, .inr rfl⟩

/-! ## Switching the foreground -/

def fullCopy (env : PanelEnv) (shmKey : Nat) : Copy :=
  ⟨shmKey, (env.shm shmKey).fullRect.clip (env.shm shmKey).width (env.shm shmKey).height,
    (env.shm shmKey).commitSequence⟩

/-- The copy of a whole surface covers each of its pixels. -/
theorem fullCopy_covers (shmKey : Nat) {x y : Int} (column : 0 ≤ x ∧ x < (env.shm shmKey).width)
    (row : 0 ≤ y ∧ y < (env.shm shmKey).height) : (fullCopy env shmKey).rect.Covers x y := by
  have bounded := (env.shm shmKey).bounded
  have wide : (8192 : Int) ≤ i32Max := by decide
  have least : i32Min ≤ 0 := by decide
  refine (Rect.clip_covers (by omega) (by omega)).mpr ?_
  simp only [SharedSurface.fullRect, Rect.right, Rect.bottom, Int.zero_add]
  rw [Rect.saturate_eq (by omega) (by omega), Rect.saturate_eq (by omega) (by omega)]
  omega

theorem presentedCopy_full {shmKey : Nat} (visible : p.foreground = some lease)
    (registered : p.surfaces lease.key = some shmKey) :
    p.presentedCopy env lease (env.shm shmKey).fullRect = some (fullCopy env shmKey) := by
  have positive := (env.shm shmKey).positive
  have covers := fullCopy_covers env shmKey (x := 0) (y := 0) (by omega) (by omega)
  have nonempty : ((env.shm shmKey).fullRect.clip (env.shm shmKey).width (env.shm shmKey).height).isEmpty = false :=
    covers.1
  simp [presentedCopy, visible, registered, nonempty, fullCopy]

/-- The state after an attempt to make `lease` the foreground: the stroke has
    ended, the whole surface is copied, and the lease is the foreground if the
    vendor library accepted the picture. -/
structure Switched (env : PanelEnv) (p : PanelRuntime) (lease : PanelLease) (shmKey : Nat) (q : PanelRuntime) :
    Prop where
  surfaces : q.surfaces = p.surfaces
  lock : q.lock = p.lock
  foreground : q.foreground = if env.marker.isSome then some lease else p.foreground
  activePen : q.activePen = false
  settleDeadline : q.settleDeadline = none
  canonicalDirty : q.canonicalDirty = default
  deferredDamage : q.telemetry.deferredDamage = (p.discardReplaced lease).telemetry.deferredDamage
  copies : q.backend.copies = p.backend.copies ++ [fullCopy env shmKey]
  ink : q.ink.enabled = true → q.ink.lease = lease ∧ env.marker.isSome = true
  committedForeground : q.telemetry.committedForeground =
    if env.marker.isSome then some lease else p.telemetry.committedForeground
  committedLockEpoch : q.telemetry.committedLockEpoch = p.telemetry.committedLockEpoch
  cancelledLockEpoch : q.telemetry.cancelledLockEpoch = p.telemetry.cancelledLockEpoch

theorem discardReplaced_view (lease : PanelLease) :
    (p.discardReplaced lease).surfaces = p.surfaces ∧ (p.discardReplaced lease).lock = p.lock ∧
    (p.discardReplaced lease).backend = p.backend ∧
    (p.discardReplaced lease).telemetry.committedForeground = p.telemetry.committedForeground ∧
    (p.discardReplaced lease).telemetry.committedLockEpoch = p.telemetry.committedLockEpoch ∧
    (p.discardReplaced lease).telemetry.cancelledLockEpoch = p.telemetry.cancelledLockEpoch := by
  unfold discardReplaced
  cases p.foreground with
  | none => simp
  | some previous => by_cases other : previous ≠ lease <;> simp [other, PanelTelemetry.discardDeferredDamage]

/-- The presentation of a switch that has begun, and the end of the switch after
    it: the old lease comes back after a refusal, else the new one is committed. -/
theorem switch_spec {shmKey : Nat} (ink : InkLease) (enabled : Bool) (registered : p.surfaces lease.key = some shmKey)
    (matching : ink.enabled = true → ink.lease = lease) (intent : RefreshIntent) (reason : SubmissionReason)
    {started : PanelRuntime}
    (begun : started = { (p.discardReplaced lease).abortInk with ink := ink, foreground := some lease }) :
    (env.marker = none ∧ ∃ error q,
      started.presentSurface env lease (env.shm shmKey).fullRect intent reason = (.error error, q) ∧ q.ink = ink ∧
      ∀ left : InkLease, left.enabled = false →
        Switched env p lease shmKey { q with foreground := p.foreground, ink := left }) ∨
    (env.marker.isSome = true ∧ ∃ q,
      started.presentSurface env lease (env.shm shmKey).fullRect intent reason = (.ok (), q) ∧
      Switched env p lease shmKey
        { q with telemetry := (q.telemetry.commitForeground lease).commitInk lease enabled }) := by
  obtain ⟨surfaces, lock, backend, committed, lockEpoch, cancelled⟩ := discardReplaced_view (p := p) lease
  have same : started.surfaces lease.key = some shmKey := by simp [begun, abortInk, surfaces, registered]
  have copy := presentedCopy_full env (p := started) (by simp [begun]) same
  obtain ⟨view, copies⟩ := presentSurface_spec env (p := started) lease (env.shm shmKey).fullRect intent reason
  have result := presentSurface_result env (p := started) lease (env.shm shmKey).fullRect intent reason
  rw [copy] at copies result
  rcases presented : started.presentSurface env lease (env.shm shmKey).fullRect intent reason with ⟨outcome, q⟩
  rw [presented] at view copies result
  have base : q.surfaces = p.surfaces ∧ q.lock = p.lock ∧ q.activePen = false ∧ q.settleDeadline = none ∧
      q.canonicalDirty = default ∧
      q.telemetry.deferredDamage = (p.discardReplaced lease).telemetry.deferredDamage ∧
      q.backend.copies = p.backend.copies ++ [fullCopy env shmKey] ∧ q.foreground = some lease ∧ q.ink = ink ∧
      q.telemetry.committedForeground = p.telemetry.committedForeground ∧
      q.telemetry.committedLockEpoch = p.telemetry.committedLockEpoch ∧
      q.telemetry.cancelledLockEpoch = p.telemetry.cancelledLockEpoch := by
    rw [view.surfaces, view.lock, view.activePen, view.settleDeadline, view.canonicalDirty, view.deferredDamage,
      view.foreground, view.ink, view.committedForeground, view.committedLockEpoch, view.cancelledLockEpoch, copies]
    simp [begun, abortInk, surfaces, lock, backend, committed, lockEpoch, cancelled]
  obtain ⟨b1, b2, b3, b4, b5, b6, b7, b8, b9, b10, b11, b12⟩ := base
  cases marker : env.marker with
  | none =>
    left
    simp only [marker, Option.isSome_some, and_self, if_true] at result
    refine ⟨rfl, _, q, by rw [result], b9, fun left disabled => ⟨b1, b2, ?_, b3, b4, b5, b6, b7, ?_, ?_, b11, b12⟩⟩
    · simp [marker]
    · intro enabled
      exact absurd (disabled.symm.trans enabled) (by simp)
    · simpa [marker] using b10
  | some marked =>
    right
    simp only [marker, Option.isSome_some, reduceCtorEq, and_false, if_false] at result
    refine ⟨rfl, q, by rw [result], ⟨b1, b2, ?_, b3, b4, b5, b6, b7, ?_, ?_, b11, b12⟩⟩
    · simp [marker, b8]
    · intro enabled
      simp only [b9] at enabled ⊢
      exact ⟨matching enabled, by simp [marker]⟩
    · simp [marker, PanelTelemetry.commitInk, PanelTelemetry.commitForeground]

/-- An attempt to switch the foreground ends in one of two ways: no surface is
    registered and nothing changes, or the switch was attempted. -/
def SwitchOutcome (env : PanelEnv) (p : PanelRuntime) (lease : PanelLease) (outcome : Outcome) : Prop :=
  (p.surfaces lease.key = none ∧ outcome.2 = p ∧ ∃ error, outcome.1 = .error error) ∨
  ∃ shmKey, p.surfaces lease.key = some shmKey ∧ Switched env p lease shmKey outcome.2 ∧
    (outcome.1 = .ok () ↔ env.marker.isSome = true)

theorem setForegroundWith_spec (lease : PanelLease) (intent : RefreshIntent) (reason : SubmissionReason) :
    SwitchOutcome env p lease (p.setForegroundWith env lease intent reason) := by
  unfold setForegroundWith surface
  cases registered : p.surfaces lease.key with
  | none => exact .inl ⟨registered, by simp, _, rfl⟩
  | some shmKey =>
    refine .inr ⟨shmKey, registered, ?_⟩
    simp only [Option.map_some]
    rcases switch_spec env default false registered (by simp [default]) intent reason rfl with
      ⟨refused, error, q, presented, ink, switched⟩ | ⟨accepted, q, presented, switched⟩
    · rw [presented]
      exact ⟨switched q.ink (by simp [ink, default]), by simp [refused]⟩
    · rw [presented]
      exact ⟨switched, by simp [accepted]⟩

theorem setForeground_spec (lease : PanelLease) (fullRefresh : Bool) :
    SwitchOutcome env p lease (p.setForeground env lease fullRefresh) := by
  unfold setForeground
  cases found : p.surface env lease.key with
  | none => exact .inl ⟨Option.map_eq_none_iff.mp found, by simp, _, rfl⟩
  | some surface => exact setForegroundWith_spec env lease _ _

theorem activateForeground_spec (lease : PanelLease) (inkEnabled fullRefresh : Bool) :
    SwitchOutcome env p lease (p.activateForeground env lease inkEnabled fullRefresh) := by
  unfold activateForeground surface
  cases registered : p.surfaces lease.key with
  | none => exact .inl ⟨registered, by simp, _, rfl⟩
  | some shmKey =>
    refine .inr ⟨shmKey, registered, ?_⟩
    simp only [Option.map_some]
    rcases switch_spec env (p := p) ⟨lease.key, lease.generation, lease.foregroundEpoch, inkEnabled, none⟩ inkEnabled
      registered (fun _ => rfl) (foregroundIntent (env.shm shmKey) fullRefresh) .foregroundSwitch rfl with
      ⟨refused, error, q, presented, _, switched⟩ | ⟨accepted, q, presented, switched⟩
    · rw [presented]
      exact ⟨switched default rfl, by simp [refused]⟩
    · rw [presented]
      exact ⟨switched, by simp [accepted]⟩

/-- `show_lock` is a switch after which the lock may be recorded. -/
theorem showLock_spec (lease : PanelLease) (sleepEpoch : Nat) :
    ∃ result q, SwitchOutcome env p lease (result, q) ∧
      ((p.showLock env lease sleepEpoch).2 = q ∨
        result = .ok () ∧ ∃ sequence, (p.showLock env lease sleepEpoch).2 =
          { q with lock := some ⟨sleepEpoch, lease, sequence⟩, telemetry := q.telemetry.commitLock sleepEpoch }) := by
  have spec := setForegroundWith_spec env (p := p) lease .full .lockScreen
  unfold showLock Outcome.andThen
  rcases switched : p.setForegroundWith env lease .full .lockScreen with ⟨result, q⟩
  rw [switched] at spec
  refine ⟨result, q, spec, ?_⟩
  cases result with
  | error error => exact .inl rfl
  | ok _ =>
    cases presented : q.telemetry.lastPresented with
    | none => exact .inl (by simp [presented])
    | some last =>
      by_cases recorded : last.1 = lease.key ∧ last.2 > 0
      · exact .inr ⟨rfl, last.2, by simp [presented, recorded]⟩
      · exact .inl (by simp [presented, recorded])

/-! ## The ink lease -/

/-- Ink is enabled only for the foreground, and only then can a stroke be settling. -/
def InkHeld (p : PanelRuntime) : Prop :=
  (p.ink.enabled = true → p.foreground = some p.ink.lease) ∧
  (p.settleDeadline.isSome = true → p.ink.enabled = true)

/-! ## Settling -/

theorem syncSurfaceBuffer_spec (lease : PanelLease) (rect : Rect) :
    SameView p (p.syncSurfaceBuffer env lease rect) ∧
    (p.syncSurfaceBuffer env lease rect).backend.copies = p.backend.copies ++ (p.presentedCopy env lease rect).toList := by
  unfold syncSurfaceBuffer presentedCopy
  by_cases visible : p.foreground = some lease
  · cases registered : p.surfaces lease.key with
    | none => simp [visible, SameView.refl]
    | some shmKey =>
      simp only [visible, ne_eq, not_true_eq_false, if_false, if_true, Option.bind_some]
      by_cases empty : (rect.clip (env.shm shmKey).width (env.shm shmKey).height).isEmpty = true
      · simp [empty, SameView.refl]
      · simp only [empty, Bool.false_eq_true, if_false, Option.toList_some]
        exact ⟨copySurface_sameView env _ _, rfl⟩
  · simp [visible, SameView.refl]

/-- What settling does with `canonical_dirty`: nothing before the deadline; a
    retry while the application has not drawn; else it is cleared, with a copy
    of it if the application has drawn since the stroke began. -/
inductive Settles (env : PanelEnv) (p : PanelRuntime) : PanelRuntime → Prop
  | early : Settles env p p
  | retry (settling : p.settleDeadline.isSome = true) :
      Settles env p { p with settleDeadline := some (env.now + canonicalSettleRetry) }
  | cleared (due : (p.settleDeadline.any fun deadline => deadline ≤ env.now) = true)
      (older : p.canonicalIsNewer env = true → p.canonicalDirty.isEmpty = true ∨ p.ink.enabled = false)
      (expired : p.canonicalIsNewer env = false → p.retryAllowed env = false) :
      Settles env p { p with settleDeadline := none, settleStarted := none, canonicalDirty := default }
  | copied (newer : p.canonicalIsNewer env = true) (enabled : p.ink.enabled = true) (q : PanelRuntime)
      (view : SameView { p with settleDeadline := none, settleStarted := none, canonicalDirty := default } q)
      (copies : q.backend.copies = p.backend.copies ++
        (p.presentedCopy env p.ink.lease p.canonicalDirty).toList) :
      Settles env p q

theorem settle_spec : Settles env p (p.settle env) := by
  unfold settle
  by_cases due : (p.settleDeadline.any fun deadline => deadline ≤ env.now) = true
  · simp only [due, Bool.not_true, Bool.false_eq_true, if_false]
    by_cases retries : (!p.canonicalIsNewer env && p.retryAllowed env) = true
    · simp only [retries, if_true]
      refine .retry ?_
      cases deadline : p.settleDeadline with
      | none => simp [deadline] at due
      | some _ => rfl
    · simp only [retries, Bool.false_eq_true, if_false]
      by_cases copies : (p.canonicalIsNewer env && !p.canonicalDirty.isEmpty && p.ink.enabled) = true
      · simp only [copies, if_true]
        simp only [Bool.and_eq_true] at copies
        obtain ⟨view, made⟩ := syncSurfaceBuffer_spec env (p := { p with
          settleDeadline := none, settleStarted := none, canonicalDirty := default }) p.ink.lease p.canonicalDirty
        exact .copied copies.1.1 copies.2 _ view made
      · simp only [copies, Bool.false_eq_true, if_false]
        refine .cleared due ?_ ?_
        · intro newer
          by_contra both
          simp only [not_or, Bool.not_eq_true, Bool.not_eq_false] at both
          simp [newer, both] at copies
        · intro older
          simpa [older] using retries
  · simp only [due, Bool.not_false, if_true]
    exact .early

variable {env} in
theorem Settles.inkHeld {q : PanelRuntime} (settles : Settles env p q) (held : p.InkHeld) : q.InkHeld := by
  cases settles with
  | early => exact held
  | retry settling => exact ⟨held.1, fun _ => held.2 settling⟩
  | cleared due older expired => exact ⟨held.1, fun settling => by simp at settling⟩
  | copied newer enabled q view copies =>
    unfold InkHeld
    rw [view.ink, view.foreground, view.settleDeadline]
    exact ⟨held.1, fun settling => by simp at settling⟩

variable {env} in
theorem Settles.longer {q : PanelRuntime} (settles : Settles env p q) : p.backend.copies <+: q.backend.copies := by
  cases settles with
  | copied newer enabled q view copies => exact ⟨_, copies.symm⟩
  | _ => exact List.prefix_rfl

/-- `flush_deadlines` flushes the live ink and, unless that fails, settles. -/
theorem flushDeadlines_spec : ∃ q, SameView p q ∧ q.backend = p.backend ∧
    ((p.flushDeadlines env).2 = q ∨ Settles env q (p.flushDeadlines env).2) := by
  obtain ⟨view, backend⟩ := flushLive_spec env (p := p) false
  unfold flushDeadlines Outcome.andThen
  rcases flushed : p.flushLive env false with ⟨result, q⟩
  rw [flushed] at view backend
  cases result with
  | error error => exact ⟨q, view, backend, .inl rfl⟩
  | ok _ => exact ⟨q, view, backend, .inr (settle_spec env)⟩

theorem InkHeld.of_view {q : PanelRuntime} (held : p.InkHeld) (ink : q.ink = p.ink) (foreground : q.foreground = p.foreground)
    (settling : q.settleDeadline.isSome = true → p.settleDeadline.isSome = true) : q.InkHeld := by
  unfold InkHeld
  rw [ink, foreground]
  exact ⟨held.1, fun now => held.2 (settling now)⟩

theorem InkHeld.view {q : PanelRuntime} (held : p.InkHeld) (view : SameView p q) : q.InkHeld :=
  held.of_view view.ink view.foreground fun settling => view.settleDeadline ▸ settling

variable {env} in
theorem Switched.inkHeld {shmKey : Nat} {q : PanelRuntime} (switched : Switched env p lease shmKey q) : q.InkHeld := by
  refine ⟨fun enabled => ?_, fun settling => ?_⟩
  · obtain ⟨matching, accepted⟩ := switched.ink enabled
    rw [switched.foreground, if_pos accepted, matching]
  · simp [switched.settleDeadline] at settling

variable {env} in
theorem SwitchOutcome.keeps {outcome : Outcome} (held : p.InkHeld) (switch : SwitchOutcome env p lease outcome) :
    outcome.2.InkHeld ∧ p.backend.copies <+: outcome.2.backend.copies := by
  rcases switch with ⟨_, same, _⟩ | ⟨shmKey, _, switched, _⟩
  · rw [same]
    exact ⟨held, List.prefix_rfl⟩
  · exact ⟨switched.inkHeld, _, switched.copies.symm⟩

theorem clearForegroundUnchecked_inkHeld : p.clearForegroundUnchecked.InkHeld := by
  refine ⟨fun enabled => ?_, fun settling => ?_⟩
  · simp [clearForegroundUnchecked, default] at enabled
  · simp [clearForegroundUnchecked, abortInk] at settling

/-- A pen frame keeps the leases and makes no copy; only the end of a stroke under
    the ink lease begins to settle. -/
structure PenStep (p q : PanelRuntime) : Prop where
  surfaces : q.surfaces = p.surfaces
  foreground : q.foreground = p.foreground
  lock : q.lock = p.lock
  ink : q.ink = p.ink
  copies : q.backend.copies = p.backend.copies
  deferredDamage : q.telemetry.deferredDamage = p.telemetry.deferredDamage
  committedForeground : q.telemetry.committedForeground = p.telemetry.committedForeground
  cancelledLockEpoch : q.telemetry.cancelledLockEpoch = p.telemetry.cancelledLockEpoch
  settling : q.settleDeadline.isSome = true → p.settleDeadline.isSome = true ∨ p.ink.enabled = true

theorem beginPen_spec (frame : PenFrame) : PenStep p (p.beginPen env frame) := by
  obtain ⟨view, copies, _⟩ := drawLiveSegment_spec env (p := { p with
    activePen := true
    settleDeadline := none
    settleStarted := none
    inkBeginSequence := p.commitSequence env p.ink.key
    lastPen := some ⟨frame.x, frame.y, liveBrushRadius frame.tool frame.pressure frame.pressureMax, frame.tool⟩ })
    frame.tool frame.x frame.y frame.x frame.y (liveBrushRadius frame.tool frame.pressure frame.pressureMax)
  refine ⟨view.surfaces, view.foreground, view.lock, view.ink, copies, view.deferredDamage, view.committedForeground,
    view.cancelledLockEpoch, fun settling => ?_⟩
  have none : (p.beginPen env frame).settleDeadline = none := view.settleDeadline
  simp [none] at settling

theorem movePen_spec (frame : PenFrame) : PenStep p (p.movePen env frame) := by
  have spec := drawLiveSegment_spec env (p := p) frame.tool
    (p.lastPen.getD ⟨frame.x, frame.y, liveBrushRadius frame.tool frame.pressure frame.pressureMax, frame.tool⟩).x
    (p.lastPen.getD ⟨frame.x, frame.y, liveBrushRadius frame.tool frame.pressure frame.pressureMax, frame.tool⟩).y
    frame.x frame.y
    (liveSegmentRadius frame.tool (liveBrushRadius frame.tool frame.pressure frame.pressureMax) (some
      (p.lastPen.getD ⟨frame.x, frame.y, liveBrushRadius frame.tool frame.pressure frame.pressureMax, frame.tool⟩)))
  obtain ⟨view, copies, _⟩ := spec
  exact ⟨view.surfaces, view.foreground, view.lock, view.ink, copies, view.deferredDamage, view.committedForeground,
    view.cancelledLockEpoch, fun settling => .inl (view.settleDeadline ▸ settling)⟩

theorem endPen_spec (enabled : p.ink.enabled = true) : PenStep p (p.endPen env).2 := by
  obtain ⟨view, backend⟩ := flushLive_spec env (p := { p with
    activePen := false
    lastPen := none
    settleStarted := some env.now
    settleDeadline := some (env.now + canonicalSettleDelay) }) true
  exact ⟨view.surfaces, view.foreground, view.lock, view.ink, congrArg PanelBackend.copies backend,
    view.deferredDamage, view.committedForeground, view.cancelledLockEpoch, fun _ => .inr enabled⟩

theorem PenStep.refl (p : PanelRuntime) : PenStep p p := ⟨rfl, rfl, rfl, rfl, rfl, rfl, rfl, rfl, .inl⟩

theorem penLeaseValid_enabled {frame : PenFrame} (valid : p.penLeaseValid lease frame = true) : p.ink.enabled = true := by
  simp only [penLeaseValid, Bool.and_eq_true] at valid
  exact valid.1.1.1

theorem handlePen_spec (lease : PanelLease) (frame : PenFrame) : PenStep p (p.handlePen env lease frame).2 := by
  unfold handlePen
  by_cases valid : p.penLeaseValid lease frame = true
  · simp only [valid, Bool.not_true, Bool.false_eq_true, if_false]
    cases frame.phase with
    | down => exact beginPen_spec env frame
    | move =>
      by_cases active : p.activePen = true
      · simp only [active, if_true]
        exact movePen_spec env frame
      · simp only [active, Bool.false_eq_true, if_false]
        exact PenStep.refl p
    | up =>
      by_cases active : p.activePen = true
      · simp only [active, if_true]
        exact endPen_spec env (penLeaseValid_enabled valid)
      · simp only [active, Bool.false_eq_true, if_false]
        exact PenStep.refl p
    | cancel => exact ⟨rfl, rfl, rfl, rfl, rfl, rfl, rfl, rfl, fun settling => by simp [abortInk] at settling⟩
  · simp only [valid, Bool.not_false, if_true]
    exact PenStep.refl p

/-- The rectangle that a pen frame adds to `canonical_dirty`. -/
def penDirty (p : PanelRuntime) (frame : PenFrame) : Rect :=
  let desiredRadius := liveBrushRadius frame.tool frame.pressure frame.pressureMax
  let previous := p.lastPen.getD ⟨frame.x, frame.y, desiredRadius, frame.tool⟩
  let radius := match frame.phase with
    | .move => liveSegmentRadius frame.tool desiredRadius (some previous)
    | _ => desiredRadius
  Rect.expand ⟨frame.x, frame.y, 1, 1⟩ (saturate (radius + 3))

/-- Only a cancelled stroke takes anything out of `canonical_dirty`. -/
theorem handlePen_canonical {frame : PenFrame}
    (fits : p.penLeaseValid lease frame = true → frame.phase ≠ .up → p.canonicalDirty.UnionFits (p.penDirty frame))
    (lasting : ¬ (p.penLeaseValid lease frame = true ∧ frame.phase = .cancel)) {x y : Int}
    (covers : p.canonicalDirty.Covers x y) : (p.handlePen env lease frame).2.canonicalDirty.Covers x y := by
  have grows : ∀ {dirty rect : Rect}, p.canonicalDirty.UnionFits rect →
      dirty = p.canonicalDirty ∨ dirty = p.canonicalDirty.union rect → dirty.Covers x y := by
    rintro dirty rect small (same | grown)
    · exact same ▸ covers
    · exact grown ▸ Rect.union_covers small (.inl covers)
  unfold handlePen
  by_cases valid : p.penLeaseValid lease frame = true
  · have fits := fits valid
    simp only [valid, Bool.not_true, Bool.false_eq_true, if_false]
    unfold penDirty at fits
    cases phase : frame.phase with
    | down =>
      simp only [phase] at fits
      exact grows (fits (by simp)) (drawLiveSegment_spec env (p := { p with
        activePen := true
        settleDeadline := none
        settleStarted := none
        inkBeginSequence := p.commitSequence env p.ink.key
        lastPen := some ⟨frame.x, frame.y, liveBrushRadius frame.tool frame.pressure frame.pressureMax, frame.tool⟩ })
        frame.tool frame.x frame.y frame.x frame.y _).2.2
    | move =>
      by_cases active : p.activePen = true
      · simp only [phase] at fits
        simp only [active, if_true]
        exact grows (fits (by simp)) (drawLiveSegment_spec env (p := p) frame.tool _ _ frame.x frame.y _).2.2
      · simpa only [active, Bool.false_eq_true, if_false] using covers
    | up =>
      by_cases active : p.activePen = true
      · simp only [active, if_true]
        have view := (flushLive_spec env (p := { p with
          activePen := false
          lastPen := none
          settleStarted := some env.now
          settleDeadline := some (env.now + canonicalSettleDelay) }) true).1.canonicalDirty
        have same : (p.endPen env).2.canonicalDirty = p.canonicalDirty := view
        exact same ▸ covers
      · simpa only [active, Bool.false_eq_true, if_false] using covers
    | cancel => exact absurd ⟨valid, phase⟩ lasting
  · simpa only [valid, Bool.not_false, if_true] using covers

theorem PenStep.inkHeld {q : PanelRuntime} (step : PenStep p q) (held : p.InkHeld) : q.InkHeld := by
  unfold InkHeld
  rw [step.ink, step.foreground]
  exact ⟨held.1, fun settling => (step.settling settling).elim held.2 id⟩

/-- `drop_surface` removes the surface and the damage deferred for its key, and
    clears the foreground on that key unless the lock holds it. -/
theorem dropSurface_spec (key : Int) :
    (p.dropSurface key).surfaces = Function.update p.surfaces key none ∧
    (p.dropSurface key).backend = p.backend ∧
    ((p.dropSurface key).foreground = p.foreground ∧ (p.dropSurface key).lock = p.lock ∧
      (p.dropSurface key).ink = p.ink ∧ (p.dropSurface key).settleDeadline = p.settleDeadline ∧
      (p.dropSurface key).canonicalDirty = p.canonicalDirty ∧
      (p.dropSurface key).telemetry = p.telemetry.discardDeferredDamageForKey key ∨
    (p.dropSurface key).foreground = none ∧ (p.dropSurface key).lock = p.lock ∧ (p.dropSurface key).InkHeld ∧
      (∀ lock ∈ p.lock, lock.lease.key ≠ key) ∧ ∃ foreground ∈ p.foreground, foreground.key = key) := by
  unfold dropSurface
  by_cases locked : (p.lock.any fun lock => lock.lease.key = key) = true
  · simp [locked]
  by_cases shows : (p.foreground.any fun foreground => foreground.key = key) = true
  · simp only [locked, shows, Bool.false_eq_true, if_false, if_true]
    refine ⟨rfl, rfl, .inr ⟨rfl, rfl, clearForegroundUnchecked_inkHeld, ?_, ?_⟩⟩
    · intro lock holds same
      exact locked (by simp [Option.mem_def.mp holds, same])
    · cases foreground : p.foreground with
      | none => simp [foreground] at shows
      | some lease => exact ⟨lease, rfl, by simpa [foreground] using shows⟩
  · simp [locked, shows]

/-- `clear_foreground` clears the foreground it names and nothing else. -/
theorem clearForeground_spec (lease : PanelLease) :
    p.clearForeground lease = p ∧ p.foreground ≠ some lease ∨
    p.clearForeground lease = p.clearForegroundUnchecked ∧ p.foreground = some lease := by
  unfold clearForeground
  by_cases shows : p.foreground = some lease
  · exact .inr ⟨by simp [shows], shows⟩
  · exact .inl ⟨by simp [shows], shows⟩

theorem configureInk_spec (lease : PanelLease) (enabled : Bool) (region : Option Rect) :
    (∃ error, p.configureInk lease enabled region = (.error error, p)) ∨
    (enabled = true → p.foreground = some lease) ∧ p.configureInk lease enabled region =
      (.ok (), { p.abortInk with
        ink := ⟨lease.key, lease.generation, lease.foregroundEpoch, enabled, region⟩
        telemetry := p.telemetry.commitInk lease enabled }) := by
  unfold configureInk
  by_cases refused : enabled = true ∧ p.foreground ≠ some lease
  · exact .inl ⟨_, if_pos refused⟩
  · refine .inr ⟨fun now => by_contra fun other => refused ⟨now, other⟩, ?_⟩
    rw [if_neg refused]
    rfl

theorem fullRefresh_spec (lease : PanelLease) :
    (p.fullRefresh env lease).2 = p ∨ ∃ rect,
      (p.fullRefresh env lease).2 = (p.presentSurface env lease rect .full .fullRefresh).2 := by
  unfold fullRefresh
  split
  · exact .inl rfl
  split
  · exact .inl rfl
  · exact .inr ⟨_, rfl⟩

theorem handleDamage_keeps (lease : PanelLease) (rect : Rect) (intent : RefreshIntent) (held : p.InkHeld) :
    (p.handleDamage env lease rect intent).2.InkHeld ∧
    p.backend.copies <+: (p.handleDamage env lease rect intent).2.backend.copies := by
  unfold handleDamage
  split
  · exact ⟨held, List.prefix_rfl⟩
  split
  · exact ⟨held, List.prefix_rfl⟩
  · obtain ⟨view, copies⟩ := presentSurface_spec env (p := p) lease rect intent .surfaceDamage
    exact ⟨held.view view, _, copies.symm⟩

/-- A lock refresh submits the frozen pixels again. -/
theorem refreshLock_spec (lease : PanelLease) (sleepEpoch : Nat) :
    SameView p (p.refreshLock env lease sleepEpoch).2 ∧
    (p.refreshLock env lease sleepEpoch).2.backend = p.backend := by
  unfold refreshLock
  cases p.lock with
  | none => exact ⟨SameView.refl p, rfl⟩
  | some lock =>
    simp only
    split
    · exact ⟨SameView.refl p, rfl⟩
    have view := submit_sameView env (p := p) ⟨0, 0, p.backend.width, p.backend.height⟩ .full lease
      lock.frozenSurfaceSequence .lockRefresh
    have backend := submit_backend env (p := p) ⟨0, 0, p.backend.width, p.backend.height⟩ .full lease
      lock.frozenSurfaceSequence .lockRefresh
    unfold Outcome.andThen
    rcases submitted : p.submit env ⟨0, 0, p.backend.width, p.backend.height⟩ .full lease
      lock.frozenSurfaceSequence .lockRefresh with ⟨result, q⟩
    rw [submitted] at view backend
    cases result with
    | error error => exact ⟨view, backend⟩
    | ok _ => exact ⟨view.trans ⟨rfl, rfl, rfl, rfl, rfl, rfl, rfl, rfl, rfl, rfl, rfl, rfl, rfl⟩, backend⟩

/-- A cancellation fails and leaves the leases, the pixels and the lock as they
    were, or presents the whole surface from a commit that is late enough and
    releases the lock. -/
inductive Cancelled (env : PanelEnv) (p : PanelRuntime) (lease : PanelLease) (sleepEpoch sequence : Nat) :
    Outcome → Prop
  | failed (error : IoError) (q : PanelRuntime) (view : SameView p q) (backend : q.backend = p.backend) :
      Cancelled env p lease sleepEpoch sequence (.error error, q)
  | released (q : PanelRuntime) (shmKey : Nat) (holds : p.holdsLock lease sleepEpoch = true)
      (registered : p.surfaces lease.key = some shmKey) (positive : sequence ≠ 0)
      (reached : sequence ≤ (env.shm shmKey).commitSequence)
      (presented : p.presentSurface env lease (env.shm shmKey).fullRect .full .unlockScreen = (.ok (), q)) :
      Cancelled env p lease sleepEpoch sequence (.ok (), { q with
        lock := none
        telemetry := (q.telemetry.clearCommittedLock sleepEpoch).recordLockCancelled sleepEpoch })

theorem cancelLock_spec (lease : PanelLease) (sleepEpoch sequence : Nat) :
    Cancelled env p lease sleepEpoch sequence (p.cancelLock env lease sleepEpoch sequence) := by
  unfold cancelLock surface
  by_cases holds : p.holdsLock lease sleepEpoch = true
  · simp only [holds, Bool.not_true, Bool.false_eq_true, if_false]
    cases registered : p.surfaces lease.key with
    | none => exact .failed _ p (SameView.refl p) rfl
    | some shmKey =>
      simp only [Option.map_some]
      by_cases early : sequence = 0 ∨ (env.shm shmKey).commitSequence < sequence
      · rw [if_pos early]
        exact .failed _ p (SameView.refl p) rfl
      · rw [if_neg early]
        obtain ⟨view, backend⟩ :=
          presentSurface_view env (p := p) lease (env.shm shmKey).fullRect .full .unlockScreen
        obtain ⟨width, height, stride, _⟩ := presentedBackend_spec env (p := p) lease (env.shm shmKey).fullRect
        rcases presented : p.presentSurface env lease (env.shm shmKey).fullRect .full .unlockScreen with ⟨result, q⟩
        rw [presented] at view backend
        cases result with
        | error error =>
          have backend : q.backend = _ := backend
          rw [← backend] at width height stride
          refine .failed error _ (view.trans ⟨rfl, rfl, rfl, rfl, rfl, rfl, rfl, rfl, rfl, rfl, rfl, rfl, rfl⟩) ?_
          exact PanelBackend.ext width height stride rfl rfl
        | ok _ => exact .released q shmKey holds registered (by omega) (by omega) presented
  · simp only [holds, Bool.not_false, if_true]
    exact .failed _ p (SameView.refl p) rfl

/-- Whatever the command, the ink lease stays the foreground's and copies are only added. -/
theorem handle_keeps (command : PanelCommand) (held : p.InkHeld) :
    (p.handle env command).2.InkHeld ∧ p.backend.copies <+: (p.handle env command).2.backend.copies := by
  cases command with
  | registerSurface key shmKey => exact ⟨held, List.prefix_rfl⟩
  | dropSurface key =>
    obtain ⟨_, backend, ⟨foreground, _, ink, settling, _, _⟩ | ⟨_, _, inkHeld, _, _⟩⟩ := dropSurface_spec (p := p) key
    · exact ⟨held.of_view ink foreground fun now => settling ▸ now, backend ▸ List.prefix_rfl⟩
    · exact ⟨inkHeld, backend ▸ List.prefix_rfl⟩
  | damage lease rect intent => exact handleDamage_keeps env lease rect intent held
  | setForeground lease fullRefresh => exact (setForeground_spec env lease fullRefresh).keeps held
  | activateForeground lease inkEnabled fullRefresh =>
    exact (activateForeground_spec env lease inkEnabled fullRefresh).keeps held
  | clearForeground lease =>
    rcases clearForeground_spec (p := p) lease with ⟨same, _⟩ | ⟨cleared, _⟩
    · simp only [handle, same]
      exact ⟨held, List.prefix_rfl⟩
    · simp only [handle, cleared]
      exact ⟨clearForegroundUnchecked_inkHeld, List.prefix_rfl⟩
  | configureInk lease enabled region =>
    rcases configureInk_spec (p := p) lease enabled region with ⟨error, refused⟩ | ⟨current, configured⟩
    · simp only [handle, refused]
      exact ⟨held, List.prefix_rfl⟩
    · simp only [handle, configured]
      exact ⟨⟨current, fun settling => by simp [abortInk] at settling⟩, List.prefix_rfl⟩
  | pen lease frame =>
    have step := handlePen_spec env (p := p) lease frame
    exact ⟨step.inkHeld held, by simp only [handle, step.copies]; exact List.prefix_rfl⟩
  | fullRefresh lease =>
    rcases fullRefresh_spec env (p := p) lease with same | ⟨rect, presented⟩
    · simp only [handle, same]
      exact ⟨held, List.prefix_rfl⟩
    · obtain ⟨view, copies⟩ := presentSurface_spec env (p := p) lease rect .full .fullRefresh
      simp only [handle, presented]
      exact ⟨held.view view, _, copies.symm⟩
  | showLock lease sleepEpoch =>
    obtain ⟨result, q, switch, same | ⟨_, sequence, locked⟩⟩ := showLock_spec env (p := p) lease sleepEpoch
    · simp only [handle, same]
      exact switch.keeps held
    · simp only [handle, locked]
      exact switch.keeps held
  | refreshLock lease sleepEpoch =>
    obtain ⟨view, backend⟩ := refreshLock_spec env (p := p) lease sleepEpoch
    exact ⟨held.view view, by simp only [handle, backend]; exact List.prefix_rfl⟩
  | cancelLock lease sleepEpoch sequence =>
    have spec := cancelLock_spec env (p := p) lease sleepEpoch sequence
    simp only [handle]
    generalize p.cancelLock env lease sleepEpoch sequence = outcome at spec
    cases spec with
    | failed error q view backend => exact ⟨held.view view, by simp only [backend]; exact List.prefix_rfl⟩
    | released q shmKey holds registered positive reached presented =>
      obtain ⟨view, copies⟩ :=
        presentSurface_spec env (p := p) lease (env.shm shmKey).fullRect .full .unlockScreen
      rw [presented] at view copies
      exact ⟨held.of_view view.ink view.foreground fun settling => view.settleDeadline ▸ settling, _, copies.symm⟩
  | shutdown => exact ⟨held, List.prefix_rfl⟩

end PanelRuntime
end Remagic.Display
