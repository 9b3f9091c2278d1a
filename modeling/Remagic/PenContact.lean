import Remagic.PanelEffects
import Remagic.PanelDamage
import Remagic.InkCoverage

/-!
# The end of a pen contact

While a pen is on the panel, and until its stroke has settled, the worker keeps the damage of
the application back. The frame that lifts the pen ends this, if the worker looks at it: a frame
outside the ink region is dropped whatever its phase.
-/

namespace Remagic.Display
open Runs

/-- What reaches the worker while the foreground and its ink stay as they are. -/
inductive InkEvent where
  | pen (frame : PenFrame) (env : PanelEnv)
  | damage (rect : Rect) (intent : RefreshIntent) (env : PanelEnv)
  | flushDeferred (env : PanelEnv)
  | flushDeadlines (env : PanelEnv)

/-- The event begins a contact. -/
def InkEvent.touches : InkEvent → Prop
  | .pen frame _ => frame.phase = .down
  | _ => False

namespace PanelRuntime

/-- The lease is the visible one and the one that ink is configured for. -/
structure Inks (lease : PanelLease) (p : PanelRuntime) : Prop where
  enabled : p.ink.enabled = true
  shown : p.foreground = some lease
  owned : p.ink.lease = lease

def next (lease : PanelLease) (p : PanelRuntime) : InkEvent → PanelRuntime
  | .pen frame env => (p.handlePen env lease frame).2
  | .damage rect intent env => (p.handleDamage env lease rect intent).2
  | .flushDeferred env => (p.flushDeferredDamage env).2
  | .flushDeadlines env => (p.flushDeadlines env).2

/-- The frame lies in the ink region, if there is one. -/
def inRegion (p : PanelRuntime) (frame : PenFrame) : Bool :=
  p.ink.region.all fun region => pointInside region frame.x frame.y

/-- However the run goes on without a new contact, damage goes through once the worker has
    looked at its deadlines at the instant or later. -/
def Releases (lease : PanelLease) (instant : Int) (p : PanelRuntime) : Prop :=
  ∀ (later : List InkEvent) (env : PanelEnv), (∀ event ∈ later, ¬ event.touches) → instant ≤ env.now →
    ((later.foldl (next lease) p).next lease (.flushDeadlines env)).diverts lease = false

/-- The longest that a stroke settles. -/
def settleBound : Int := canonicalSettleLimit + canonicalSettleRetry

/-- The last frame of the active contact puts an end to it: it is settled after an `Up` and
    forgotten after a `Cancel`, and either way damage is kept back for a bounded time only. -/
def EndsContact (lease : PanelLease) (p : PanelRuntime) : InkEvent → Prop
  | .pen frame env => p.activePen = true → (frame.phase = .up ∨ frame.phase = .cancel) →
    let q := p.next lease (.pen frame env)
    q.activePen = false ∧ (frame.phase = .up → q.settleDeadline = some (env.now + canonicalSettleDelay)) ∧
      (frame.phase = .cancel → q = p.abortInk) ∧ q.Releases lease (env.now + settleBound)
  | _ => True

/-- The last frame of the active contact lies in the ink region. -/
def EndsInside (p : PanelRuntime) : InkEvent → Prop
  | .pen frame _ => p.activePen = true → (frame.phase = .up ∨ frame.phase = .cancel) → p.inRegion frame = true
  | _ => True

variable {p : PanelRuntime} {lease : PanelLease}

theorem penLeaseValid_iff (inks : p.Inks lease) (frame : PenFrame) : p.penLeaseValid lease frame = p.inRegion frame := by
  simp [penLeaseValid, inRegion, inks.enabled, inks.shown, inks.owned]

/-- Nothing that reaches the worker here moves the foreground or the ink. -/
theorem next_inks (event : InkEvent) (inks : p.Inks lease) : (p.next lease event).Inks lease := by
  have kept : ∀ {q : PanelRuntime}, q.ink = p.ink → q.foreground = p.foreground → q.Inks lease := by
    intro q ink foreground
    exact ⟨ink ▸ inks.enabled, foreground ▸ inks.shown, ink ▸ inks.owned⟩
  cases event with
  | pen frame env =>
    have step := handlePen_spec env (p := p) lease frame
    exact kept step.ink step.foreground
  | damage rect intent env =>
    obtain ⟨_, view⟩ := handleDamage_view env (p := p) lease rect intent
    exact kept view.ink view.foreground
  | flushDeferred env =>
    rcases flushDeferredDamage_spec env (p := p) with same | ⟨shown, damage, -, -, same⟩
    · exact kept (congrArg ink same) (congrArg foreground same)
    · obtain ⟨_, view⟩ := handleDamage_view env
        (p := { p with telemetry := p.telemetry.discardDeferredDamage shown }) shown damage.rect damage.intent
      exact kept ((congrArg ink same).trans view.ink) ((congrArg foreground same).trans view.foreground)
  | flushDeadlines env =>
    obtain ⟨_, _, _, view, -⟩ := flushDeadlines_view env (p := p)
    exact kept view.ink view.foreground

/-! ## The live damage -/

variable (env : PanelEnv) {since : Int}

theorem submit_liveDirty (rect : Rect) (intent : RefreshIntent) (shown : PanelLease) (sequence : Nat)
    (reason : SubmissionReason) : (p.submit env rect intent shown sequence reason).2.liveDirty = p.liveDirty := by
  unfold submit
  cases env.marker <;> rfl

theorem presentSurface_liveDirty (shown : PanelLease) (rect : Rect) (intent : RefreshIntent) (reason : SubmissionReason) :
    (p.presentSurface env shown rect intent reason).2.liveDirty = p.liveDirty := by
  unfold presentSurface
  split
  · rfl
  cases p.surfaces shown.key with
  | none => rfl
  | some shmKey =>
    dsimp only
    split
    · rfl
    · have kept := submit_liveDirty env (p := p.copySurface env shmKey (rect.clip (env.shm shmKey).width (env.shm shmKey).height))
        ((p.geometryForLogical (env.shm shmKey)).logicalToPhysicalRect
          (rect.clip (env.shm shmKey).width (env.shm shmKey).height))
        (effectiveIntent (env.shm shmKey) intent) shown (env.shm shmKey).commitSequence reason
      unfold Outcome.andThen
      split
      · rename_i error q submitted
        rw [submitted] at kept
        exact kept
      · rename_i q submitted
        rw [submitted] at kept
        exact kept

theorem handleDamage_liveDirty (shown : PanelLease) (rect : Rect) (intent : RefreshIntent) :
    (p.handleDamage env shown rect intent).2.liveDirty = p.liveDirty := by
  unfold handleDamage
  split
  · rfl
  split
  · rfl
  · exact presentSurface_liveDirty env shown rect intent .surfaceDamage

theorem syncSurfaceBuffer_liveDirty (shown : PanelLease) (rect : Rect) :
    (p.syncSurfaceBuffer env shown rect).liveDirty = p.liveDirty := by
  unfold syncSurfaceBuffer
  split
  · rfl
  cases p.surfaces shown.key with
  | none => rfl
  | some shmKey =>
    dsimp only
    split <;> rfl

/-- A flush that is not put off leaves no live damage, even if the panel refuses it. -/
theorem flushLive_empty : (p.flushLive env true).2.liveDirty.isEmpty = true := by
  unfold flushLive
  by_cases empty : p.liveDirty.isEmpty = true
  · rw [if_pos (.inl empty)]
    exact empty
  · rw [if_neg (by simp [empty])]
    dsimp only
    split
    · rfl
    · have kept := submit_liveDirty env (p := { p with liveDirty := default })
        (p.liveDirty.clip p.backend.width p.backend.height) .ink p.ink.lease
        (commitSequence env { p with liveDirty := default } p.ink.key) .liveInk
      unfold Outcome.andThen
      split
      · rename_i error q submitted
        rw [submitted] at kept
        exact kept ▸ rfl
      · rename_i q submitted
        rw [submitted] at kept
        show q.liveDirty.isEmpty = true
        exact kept ▸ rfl

/-! ## Settling comes to an end -/

/-- No contact is active, and what settles has settled since the given instant. -/
structure Settling (since : Int) (p : PanelRuntime) : Prop where
  lifted : p.activePen = false
  flushed : p.liveDirty.isEmpty = true
  bounded : ∀ deadline, p.settleDeadline = some deadline →
    p.settleStarted = some since ∧ deadline ≤ since + settleBound

theorem settle_settling (settling : p.Settling since) : (p.settle env).Settling since := by
  unfold settle
  split
  · exact settling
  rename_i due
  dsimp only
  split
  · rename_i retries
    obtain ⟨deadline, waits⟩ : ∃ deadline, p.settleDeadline = some deadline := by
      cases waits : p.settleDeadline with
      | none => simp [waits] at due
      | some deadline => exact ⟨deadline, rfl⟩
    have started := (settling.bounded deadline waits).1
    have allowed : env.now - since < canonicalSettleLimit := by
      simpa [retryAllowed, started] using (Bool.and_eq_true_iff.mp retries).2
    refine ⟨settling.lifted, settling.flushed, ?_⟩
    intro later retried
    cases retried
    refine ⟨started, ?_⟩
    unfold settleBound
    omega
  · split
    · have view := (syncSurfaceBuffer_spec env (p := { p with
        settleDeadline := none, settleStarted := none, canonicalDirty := default }) p.ink.lease p.canonicalDirty).1
      refine ⟨view.activePen.trans settling.lifted, ?_, ?_⟩
      · rw [syncSurfaceBuffer_liveDirty]
        exact settling.flushed
      · intro deadline waits
        rw [view.settleDeadline] at waits
        cases waits
    · exact ⟨settling.lifted, settling.flushed, fun deadline waits => by cases waits⟩

/-- From the bound on, the worker does not wait any more. -/
theorem settle_released (settling : p.Settling since) (late : since + settleBound ≤ env.now) :
    (p.settle env).settleDeadline = none := by
  unfold settle
  cases waits : p.settleDeadline with
  | none => simp [waits]
  | some deadline =>
    obtain ⟨started, bounded⟩ := settling.bounded deadline waits
    have due : deadline ≤ env.now := by omega
    have expired : p.retryAllowed env = false := by
      simp only [retryAllowed, started, Option.any_some, decide_eq_false_iff_not]
      unfold settleBound canonicalSettleRetry at late
      omega
    simp only [Option.any_some, due, decide_true, Bool.not_true, Bool.false_eq_true, if_false, expired, Bool.and_false]
    split
    · exact (syncSurfaceBuffer_spec env (p := { p with
        settleDeadline := none, settleStarted := none, canonicalDirty := default }) p.ink.lease p.canonicalDirty).1.settleDeadline
    · rfl

theorem flushDeadlines_settle (settling : p.Settling since) : (p.flushDeadlines env).2 = p.settle env := by
  have idle : p.flushLive env false = (.ok (), p) := by
    unfold flushLive
    rw [if_pos (.inl settling.flushed)]
  simp only [flushDeadlines, idle, Outcome.andThen]

theorem handleDamage_settling (settling : p.Settling since) (shown : PanelLease) (rect : Rect) (intent : RefreshIntent) :
    (p.handleDamage env shown rect intent).2.Settling since := by
  obtain ⟨_, view⟩ := handleDamage_view env (p := p) shown rect intent
  refine ⟨view.activePen.trans settling.lifted, ?_, ?_⟩
  · rw [handleDamage_liveDirty]
    exact settling.flushed
  · intro deadline waits
    rw [view.settleDeadline] at waits
    rw [view.settleStarted]
    exact settling.bounded deadline waits

theorem abortInk_settling (since : Int) (p : PanelRuntime) : p.abortInk.Settling since :=
  ⟨rfl, rfl, fun deadline waits => by cases waits⟩

theorem next_settling (settling : p.Settling since) {event : InkEvent} (rests : ¬ event.touches) :
    (p.next lease event).Settling since := by
  cases event with
  | pen frame env =>
    show (p.handlePen env lease frame).2.Settling since
    unfold handlePen
    split
    · exact settling
    · cases phase : frame.phase with
      | down => exact absurd phase rests
      | move => simpa only [settling.lifted, Bool.false_eq_true, if_false] using settling
      | up => simpa only [settling.lifted, Bool.false_eq_true, if_false] using settling
      | cancel => exact abortInk_settling since p
  | damage rect intent env => exact handleDamage_settling env settling lease rect intent
  | flushDeferred env =>
    show (p.flushDeferredDamage env).2.Settling since
    rcases flushDeferredDamage_spec env (p := p) with same | ⟨shown, damage, -, -, same⟩
    · rw [same]
      exact settling
    · rw [same]
      exact handleDamage_settling env (p := { p with telemetry := p.telemetry.discardDeferredDamage shown })
        ⟨settling.lifted, settling.flushed, settling.bounded⟩ shown damage.rect damage.intent
  | flushDeadlines env =>
    show (p.flushDeadlines env).2.Settling since
    rw [flushDeadlines_settle env settling]
    exact settle_settling env settling

theorem Settling.releases (settling : p.Settling since) : p.Releases lease (since + settleBound) := by
  intro later env rests late
  have reached : (later.foldl (next lease) p).Settling since := by
    induction later generalizing p with
    | nil => exact settling
    | cons event rest ih =>
      exact ih (next_settling settling (rests event (List.mem_cons_self ..))) fun other member =>
        rests other (List.mem_cons_of_mem _ member)
  show ((later.foldl (next lease) p).flushDeadlines env).2.diverts lease = false
  rw [flushDeadlines_settle env reached]
  have lifted := (settle_settling env reached).lifted
  have released := settle_released env reached late
  simp [PanelRuntime.diverts, lifted, released]

/-! ## The end of the contact -/

theorem endPen_settling (p : PanelRuntime) : (p.endPen env).2.Settling env.now := by
  obtain ⟨view, -⟩ := flushLive_spec env (p := { p with
    activePen := false
    lastPen := none
    settleStarted := some env.now
    settleDeadline := some (env.now + canonicalSettleDelay) }) true
  refine ⟨view.activePen, flushLive_empty env, ?_⟩
  intro deadline waits
  have kept : some (env.now + canonicalSettleDelay) = some deadline := view.settleDeadline.symm.trans waits
  cases kept
  refine ⟨view.settleStarted, ?_⟩
  unfold settleBound canonicalSettleDelay canonicalSettleLimit canonicalSettleRetry
  omega

theorem endPen_deadline (p : PanelRuntime) :
    (p.endPen env).2.settleDeadline = some (env.now + canonicalSettleDelay) :=
  (flushLive_spec env (p := { p with
    activePen := false
    lastPen := none
    settleStarted := some env.now
    settleDeadline := some (env.now + canonicalSettleDelay) }) true).1.settleDeadline

/-- A contact ends with its last frame exactly if that frame is in the ink region. -/
theorem ends_contact_iff (inks : p.Inks lease) (event : InkEvent) : p.EndsContact lease event ↔ p.EndsInside event := by
  cases event with
  | damage | flushDeferred | flushDeadlines => exact Iff.rfl
  | pen frame env =>
    have valid := penLeaseValid_iff inks frame
    constructor
    · intro ends active last
      have lifted : (p.handlePen env lease frame).2.activePen = false := (ends active last).1
      by_contra outside
      rw [Bool.not_eq_true] at outside
      -- the frame is dropped, and the pen stays where it was
      simp [handlePen, valid, outside, active] at lifted
    · intro inside active last
      have here := inside active last
      rcases last with up | cancel
      · have same : p.next lease (.pen frame env) = (p.endPen env).2 := by
          simp [next, handlePen, valid, here, up, active]
        have settling := endPen_settling env p
        rw [← same] at settling
        refine ⟨settling.lifted, fun _ => ?_, fun cancel => ?_, settling.releases⟩
        · rw [same]
          exact endPen_deadline env p
        · rw [up] at cancel
          cases cancel
      · have same : p.next lease (.pen frame env) = p.abortInk := by
          simp [next, handlePen, valid, here, cancel]
        have settling := abortInk_settling env.now p
        rw [← same] at settling
        refine ⟨settling.lifted, fun up => ?_, fun _ => same, settling.releases⟩
        rw [cancel] at up
        cases up

/-- Over every run under one lease, the contacts end with their last frames exactly if these
    frames are in the ink region. -/
theorem contacts_end_iff (inks : p.Inks lease) (events : List InkEvent) :
    Along (next lease) (EndsContact lease) p events ↔ Along (next lease) EndsInside p events :=
  along_congr (Inks lease) (fun _ event inks _ => next_inks event inks)
    (fun _ event inks => ends_contact_iff inks event) events inks

instance (p : PanelRuntime) : (event : InkEvent) → Decidable (p.EndsInside event)
  | .pen _ _ => inferInstanceAs (Decidable (_ → _ → _))
  | .damage _ _ _ | .flushDeferred _ | .flushDeadlines _ => isTrue trivial

end PanelRuntime

namespace Sample
open PanelRuntime

theorem two_fits : 2 ≤ 8192 := by decide

/-- A worker with ink for the left one of two pixels. -/
def narrow : PanelRuntime :=
  { inkPanel 2 Nat.two_pos with ink := ⟨1, 1, 1, true, some ⟨0, 0, 1, 1⟩⟩ }

/-- The pen at one of the pixels. -/
def penOn (phase : PenPhase) (x now : Int) : InkEvent :=
  .pen ⟨phase, .pen, x, 0, 0, 4096⟩ ⟨fun _ => line 2 Nat.two_pos two_fits, now, some 1⟩

end Sample

open Sample PanelRuntime in
theorem contacts_end_inside : Along (next lease) (EndsContact lease) narrow [penOn .down 0 0, penOn .up 0 5] := by
  have inks : narrow.Inks lease := ⟨rfl, rfl, rfl⟩
  exact (contacts_end_iff inks _).mpr (by decide)

open Sample PanelRuntime in
/-- A pen that is put down in the ink region and lifted outside of it stays active, and the
    damage that comes after it is kept back. -/
theorem lifted_outside :
    let down := narrow.next lease (penOn .down 0 0)
    let up := down.next lease (penOn .up 1 5)
    up.activePen = true ∧ up.settleDeadline = none ∧ up.diverts lease = true ∧
      ¬ down.EndsContact lease (penOn .up 1 5) := by
  refine ⟨by decide, by decide, by decide, ?_⟩
  intro ends
  have lifted := (ends (by decide) (.inl rfl)).1
  exact absurd lifted (by decide)

end Remagic.Display
