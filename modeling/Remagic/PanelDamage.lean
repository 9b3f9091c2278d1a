import Remagic.PanelSpecs
import Remagic.Runs

/-!
# Accepted damage

What the panel worker owes for the damage it accepts: each pixel of it is copied
from a commit that has it, or waits in `canonical_dirty` or in the deferred
damage. A stroke diverts damage into `canonical_dirty`, and several paths clear
that rectangle without a copy, so that the debt is kept only on the runs that
reach none of them while diverted damage waits.
-/

namespace Remagic.Display

/-- Damage accepted for a lease: the surface it is about, its rectangle, the commit
    that the surface had reached and the number of copies made before it. -/
structure Accepted where
  lease : PanelLease
  shmKey : Nat
  rect : Rect
  commit : Nat
  copiesBefore : Nat
deriving DecidableEq, Repr

/-- The worker beside the memory it shares with the applications, and the damage
    it has accepted. `diverted` says that `canonical_dirty` holds damage, and not
    only the marks of a stroke. -/
structure Screen where
  shm : Nat → SharedSurface
  panel : PanelRuntime
  accepted : List Accepted
  diverted : Bool

inductive ScreenEvent where
  /-- A client writes its framebuffer; the host may store a mode and mark a commit. -/
  | client (shmKey : Nat) (bytes : Array UInt8) (refreshMode : Int) (commits : Bool)
  /-- The command queue is full, and the host defers damage of a surface. -/
  | defer (lease : PanelLease) (shmKey : Nat) (rect : Rect) (intent : RefreshIntent)
  | command (command : PanelCommand) (now : Int) (marker : Option Nat)
  | flushDeferred (now : Int) (marker : Option Nat)
  | flushDeadlines (now : Int) (marker : Option Nat)

def PanelRuntime.diverts (p : PanelRuntime) (lease : PanelLease) : Bool :=
  (p.activePen || p.settleDeadline.isSome) && p.ink.enabled && p.ink.key = lease.key

namespace Screen

def start (shm : Nat → SharedSurface) (backend : PanelBackend) : Screen := ⟨shm, .new backend, [], false⟩

variable (s : Screen)

def env (now : Int) (marker : Option Nat) : PanelEnv := ⟨s.shm, now, marker⟩

def accept (lease : PanelLease) (shmKey : Nat) (rect : Rect) : Accepted :=
  ⟨lease, shmKey, rect, (s.shm shmKey).commitSequence, s.panel.backend.copies.length⟩

/-- The worker accepts the damage of the foreground's connected surface. -/
def acceptedBy : PanelCommand → List Accepted
  | .damage lease rect _ =>
    if s.panel.foreground = some lease then ((s.panel.surfaces lease.key).map (s.accept lease · rect)).toList else []
  | _ => []

def divertsCommand : PanelCommand → Bool
  | .damage lease _ _ => s.panel.foreground = some lease && s.panel.diverts lease
  | _ => false

def divertsDeferred : Bool :=
  s.panel.foreground.any fun lease => (s.panel.telemetry.deferredDamage lease).isSome && s.panel.diverts lease

/-- Move on to the worker's next state. -/
def advance (p : PanelRuntime) (accepted : List Accepted) (diverts : Bool) : Screen :=
  { s with
    panel := p
    accepted := s.accepted ++ accepted
    diverted := (s.diverted || diverts) && !p.canonicalDirty.isEmpty }

def next : ScreenEvent → Screen
  | .client shmKey bytes refreshMode commits =>
    let surface := s.shm shmKey
    let commit := if commits then surface.commitSequence + 1 else surface.commitSequence
    let written := { surface with bytes := bytes, refreshMode := refreshMode, commitSequence := commit }
    { s with shm := Function.update s.shm shmKey written }
  | .defer lease shmKey rect intent =>
    s.advance { s.panel with telemetry := s.panel.telemetry.deferDamage lease rect intent }
      [s.accept lease shmKey rect] false
  | .command command now marker =>
    s.advance (s.panel.handle (s.env now marker) command).2 (s.acceptedBy command) (s.divertsCommand command)
  | .flushDeferred now marker =>
    s.advance (s.panel.flushDeferredDamage (s.env now marker)).2 [] s.divertsDeferred
  | .flushDeadlines now marker => s.advance (s.panel.flushDeadlines (s.env now marker)).2 [] false

/-! ## The debt -/

/-- A pixel of the damage, on its surface. -/
def OnSurface (a : Accepted) (x y : Int) : Prop :=
  a.rect.Covers x y ∧ (0 ≤ x ∧ x < (s.shm a.shmKey).width) ∧ 0 ≤ y ∧ y < (s.shm a.shmKey).height

/-- The pixel has been copied since, from a commit that has the damage. -/
def Copied (a : Accepted) (x y : Int) : Prop :=
  ∃ copy ∈ s.panel.backend.copies.drop a.copiesBefore,
    copy.shmKey = a.shmKey ∧ copy.rect.Covers x y ∧ a.commit ≤ copy.sequence

def Deferred (lease : PanelLease) (x y : Int) : Prop :=
  ∃ damage, s.panel.telemetry.deferredDamage lease = some damage ∧ damage.rect.Covers x y

/-- The damage is of the surface that shows: its lease is the foreground and its
    surface is the one connected for it. -/
def Visible (a : Accepted) : Prop :=
  s.panel.foreground = some a.lease ∧ s.panel.surfaces a.lease.key = some a.shmKey

/-! ## The condition -/

/-- A refused switch away from the foreground finds no damage waiting for it. -/
def SparesSwitch (lease : PanelLease) (marker : Option Nat) : Prop :=
  marker = none → s.panel.surfaces lease.key ≠ none →
    ∀ visible ∈ s.panel.foreground, visible ≠ lease →
      s.diverted = false ∧ s.panel.telemetry.deferredDamage visible = none

/-- The command does not drop diverted damage. -/
def SparesCommand (marker : Option Nat) : PanelCommand → Prop
  | .registerSurface key shmKey =>
    ∀ a ∈ s.accepted, s.panel.foreground = some a.lease → a.lease.key = key → a.shmKey ≠ shmKey
  | .damage lease rect _ =>
    s.panel.foreground = some lease → s.panel.diverts lease = true → s.panel.canonicalDirty.UnionFits rect
  | .setForeground lease _ => s.SparesSwitch lease marker
  | .activateForeground lease _ _ => s.SparesSwitch lease marker
  | .showLock lease _ => s.SparesSwitch lease marker
  | .configureInk lease enabled _ => (enabled = true → s.panel.foreground = some lease) → s.diverted = false
  | .pen lease frame =>
    s.panel.penLeaseValid lease frame = true →
      if frame.phase = .cancel then s.diverted = false
      else frame.phase ≠ .up → s.panel.canonicalDirty.UnionFits (s.panel.penDirty frame)
  | _ => True

/-- The step meets the condition: while diverted damage waits, nothing clears
    `canonical_dirty` without a copy, and no union of damage overflows. -/
def Spares : ScreenEvent → Prop
  | .client _ _ _ _ => True
  | .defer lease _ rect _ => ∀ damage ∈ s.panel.telemetry.deferredDamage lease, damage.rect.UnionFits rect
  | .command command _ marker => s.SparesCommand marker command
  | .flushDeferred _ _ =>
    ∀ lease ∈ s.panel.foreground, ∀ damage ∈ s.panel.telemetry.deferredDamage lease,
      s.panel.diverts lease = true → s.panel.canonicalDirty.UnionFits damage.rect
  | .flushDeadlines now marker =>
    (s.panel.settleDeadline.any fun deadline => deadline ≤ now) = true →
      s.panel.canonicalIsNewer (s.env now marker) = false → s.panel.retryAllowed (s.env now marker) = false →
      s.diverted = false

/-! ## Invariants -/

/-- What is owed for accepted damage that shows: each of its pixels is copied since
    or waits, in `canonical_dirty` only while that holds damage. -/
def Debt (a : Accepted) : Prop :=
  s.Visible a → ∀ x y, s.OnSurface a x y →
    s.Copied a x y ∨ (s.diverted = true ∧ s.panel.canonicalDirty.Covers x y) ∨ s.Deferred a.lease x y

structure Sound : Prop where
  ink : s.panel.ink.enabled = true → s.panel.foreground = some s.panel.ink.lease
  settling : s.panel.settleDeadline.isSome = true → s.panel.ink.enabled = true
  commits : ∀ a ∈ s.accepted, a.commit ≤ (s.shm a.shmKey).commitSequence
  stamps : ∀ a ∈ s.accepted, a.copiesBefore ≤ s.panel.backend.copies.length
  debts : ∀ a ∈ s.accepted, s.Debt a

variable {s} {a : Accepted} {accepted : List Accepted} {p : PanelRuntime} {marker : Option Nat} {lease : PanelLease}
  {diverts : Bool} {intent : RefreshIntent} {now : Int}

theorem start_sound (shm : Nat → SharedSurface) (backend : PanelBackend) : (start shm backend).Sound := by
  refine ⟨fun enabled => ?_, fun settling => ?_, ?_, ?_, ?_⟩
  · simp [start, PanelRuntime.new, default] at enabled
  · simp [start, PanelRuntime.new] at settling
  all_goals simp [start]

/-- A later copy is a copy since. -/
theorem copied_later {t : Screen} {x y : Int} (copied : s.Copied a x y)
    (longer : s.panel.backend.copies <+: t.panel.backend.copies) : t.Copied a x y := by
  obtain ⟨copy, member, rest⟩ := copied
  obtain ⟨later, same⟩ := longer
  refine ⟨copy, ?_, rest⟩
  rw [← same, List.drop_append]
  exact List.mem_append_left _ member

theorem copied_of_new {t : Screen} {copy : Copy} {x y : Int} (stamp : a.copiesBefore ≤ s.panel.backend.copies.length)
    (copies : t.panel.backend.copies = s.panel.backend.copies ++ [copy]) (surface : copy.shmKey = a.shmKey)
    (covers : copy.rect.Covers x y) (commit : a.commit ≤ copy.sequence) : t.Copied a x y := by
  refine ⟨copy, ?_, surface, covers, commit⟩
  rw [copies, List.drop_append_of_le_length stamp]
  simp

/-- The debt is carried over a step that keeps the copies and loses no waiting pixel. -/
theorem Debt.carry {t : Screen} (debt : s.Debt a) (shm : t.shm = s.shm)
    (visible : t.Visible a → s.Visible a) (longer : s.panel.backend.copies <+: t.panel.backend.copies)
    (waiting : t.Visible a → ∀ x y, s.OnSurface a x y →
      (s.diverted = true ∧ s.panel.canonicalDirty.Covers x y) ∨ s.Deferred a.lease x y →
      t.Copied a x y ∨ (t.diverted = true ∧ t.panel.canonicalDirty.Covers x y) ∨ t.Deferred a.lease x y) :
    t.Debt a := by
  intro shows x y inside
  have inside : s.OnSurface a x y := by simpa [OnSurface, shm] using inside
  rcases debt (visible shows) x y inside with copied | waits
  · exact .inl (copied_later copied longer)
  · exact waiting shows x y inside waits

/-- Damage waits in `canonical_dirty` after a step exactly when it did or was diverted now. -/
theorem advance_diverted {x y : Int} (held : s.diverted = true ∨ diverts = true) (covers : p.canonicalDirty.Covers x y) :
    (s.advance p accepted diverts).diverted = true := by
  have nonempty : p.canonicalDirty.isEmpty = false := covers.1
  rcases held with held | held <;> simp [advance, held, nonempty]

/-- A step that keeps the leases and what waits carries every debt. -/
theorem Debt.keep (debt : s.Debt a) (surfaces : p.surfaces = s.panel.surfaces)
    (foreground : p.foreground = s.panel.foreground) (longer : s.panel.backend.copies <+: p.backend.copies)
    (canonical : s.diverted = true → ∀ x y, s.panel.canonicalDirty.Covers x y → p.canonicalDirty.Covers x y)
    (deferred : p.telemetry.deferredDamage = s.panel.telemetry.deferredDamage) :
    (s.advance p accepted diverts).Debt a := by
  refine debt.carry rfl ?_ longer ?_
  · rintro ⟨shows, connected⟩
    exact ⟨foreground ▸ shows, surfaces ▸ connected⟩
  · rintro _ x y _ (⟨diverted, covers⟩ | ⟨damage, waits, covers⟩)
    · have still := canonical diverted x y covers
      exact .inr (.inl ⟨advance_diverted (.inl diverted) still, still⟩)
    · exact .inr (.inr ⟨damage, (congrFun deferred a.lease).trans waits, covers⟩)

theorem Debt.same (debt : s.Debt a) (same : p = s.panel) : (s.advance p accepted diverts).Debt a := by
  subst same
  exact debt.keep rfl rfl List.prefix_rfl (fun _ _ _ covers => covers) rfl

open PanelRuntime in
/-- A switch pays every debt of the lease it shows, and drops none of the lease it fails to replace. -/
theorem Debt.switch {shmKey : Nat} (debt : s.Debt a) (commit : a.commit ≤ (s.shm a.shmKey).commitSequence)
    (stamp : a.copiesBefore ≤ s.panel.backend.copies.length) (registered : s.panel.surfaces lease.key = some shmKey)
    (switched : Switched (s.env now marker) s.panel lease shmKey p) (spares : s.SparesSwitch lease marker) :
    (s.advance p accepted diverts).Debt a := by
  by_cases same : a.lease = lease
  · -- The whole surface of the lease has just been copied.
    rintro ⟨shows, connected⟩ x y ⟨_, column, row⟩
    left
    have surface : shmKey = a.shmKey := by
      have := switched.surfaces ▸ connected
      rw [same, registered] at this
      exact Option.some.inj this
    subst surface
    exact copied_of_new (s := s) stamp switched.copies rfl (fullCopy_covers (s.env now marker) a.shmKey column row) commit
  refine debt.carry rfl ?_ ⟨_, switched.copies.symm⟩ ?_
  · rintro ⟨shows, connected⟩
    have shows : p.foreground = some a.lease := shows
    rw [switched.foreground] at shows
    by_cases accepted : (s.env now marker).marker.isSome = true
    · rw [if_pos accepted] at shows
      exact absurd (Option.some.inj shows).symm same
    · rw [if_neg accepted] at shows
      exact ⟨shows, switched.surfaces ▸ connected⟩
  · rintro ⟨shows, connected⟩ x y inside waits
    exfalso
    have shows : p.foreground = some a.lease := shows
    rw [switched.foreground] at shows
    by_cases accepted : (s.env now marker).marker.isSome = true
    · rw [if_pos accepted] at shows
      exact same (Option.some.inj shows).symm
    · rw [if_neg accepted] at shows
      have refused : marker = none := by simpa [env] using accepted
      obtain ⟨undiverted, empty⟩ := spares refused (by simp [registered]) a.lease shows same
      rcases waits with ⟨diverted, _⟩ | ⟨damage, waits, _⟩
      · simp [undiverted] at diverted
      · simp [empty] at waits

/-- What the worker does with damage of the foreground: it keeps the leases and
    the ink, and each pixel is diverted or copied. -/
structure Meets (env : PanelEnv) (p : PanelRuntime) (lease : PanelLease) (rect : Rect) (q : PanelRuntime) : Prop where
  surfaces : q.surfaces = p.surfaces
  foreground : q.foreground = p.foreground
  ink : q.ink = p.ink
  settleDeadline : q.settleDeadline = p.settleDeadline
  deferredDamage : q.telemetry.deferredDamage = p.telemetry.deferredDamage
  longer : p.backend.copies <+: q.backend.copies
  canonical : ∀ x y, p.canonicalDirty.Covers x y → q.canonicalDirty.Covers x y
  pixels : ∀ shmKey, p.surfaces lease.key = some shmKey → ∀ x y, rect.Covers x y →
    (0 ≤ x ∧ x < (env.shm shmKey).width) → (0 ≤ y ∧ y < (env.shm shmKey).height) →
    (p.diverts lease = true ∧ q.canonicalDirty.Covers x y) ∨
    ∃ copy, q.backend.copies = p.backend.copies ++ [copy] ∧ copy.shmKey = shmKey ∧ copy.rect.Covers x y ∧
      copy.sequence = (env.shm shmKey).commitSequence

open PanelRuntime in
theorem handleDamage_meets (env : PanelEnv) {rect : Rect} (intent : RefreshIntent) (shows : p.foreground = some lease)
    (fits : p.diverts lease = true → p.canonicalDirty.UnionFits rect) :
    Meets env p lease rect (p.handleDamage env lease rect intent).2 := by
  unfold handleDamage
  simp only [shows, ne_eq, not_true_eq_false, if_false]
  by_cases diverts : p.diverts lease = true
  · have stroke : (p.activePen = true ∨ p.settleDeadline.isSome = true) ∧ p.ink.enabled = true ∧
        p.ink.key = lease.key := by
      simpa [PanelRuntime.diverts, and_assoc] using diverts
    simp only [stroke, and_self, if_true]
    refine ⟨rfl, shows.symm, rfl, rfl, rfl, List.prefix_rfl, ?_, ?_⟩
    · exact fun x y covers => Rect.union_covers (fits diverts) (.inl covers)
    · exact fun _ _ x y covers _ _ => .inl ⟨diverts, Rect.union_covers (fits diverts) (.inr covers)⟩
  · have idle : ¬ ((p.activePen = true ∨ p.settleDeadline.isSome = true) ∧ p.ink.enabled = true ∧
        p.ink.key = lease.key) := by
      simpa [PanelRuntime.diverts, and_assoc] using diverts
    simp only [idle, if_false]
    obtain ⟨view, copies⟩ := presentSurface_spec env (p := p) lease rect intent .surfaceDamage
    refine ⟨view.surfaces, view.foreground, view.ink, view.settleDeadline, view.deferredDamage,
      ⟨_, copies.symm⟩, ?_, ?_⟩
    · exact fun x y covers => view.canonicalDirty ▸ covers
    · intro shmKey connected x y covers column row
      right
      have bounded := (env.shm shmKey).bounded
      have wide : (8192 : Int) ≤ i32Max := by decide
      have clipped : (rect.clip (env.shm shmKey).width (env.shm shmKey).height).Covers x y :=
        (Rect.clip_covers (by omega) (by omega)).mpr
          ⟨⟨covers.2.1, covers.2.2.1, column⟩, covers.2.2.2.1, covers.2.2.2.2, row⟩
      have made : p.presentedCopy env lease rect = some ⟨shmKey,
          rect.clip (env.shm shmKey).width (env.shm shmKey).height, (env.shm shmKey).commitSequence⟩ := by
        simp [presentedCopy, shows, connected, clipped.1]
      rw [made] at copies
      exact ⟨_, copies, rfl, clipped, rfl⟩

/-- Meeting damage keeps the old debts and takes on the new one. -/
theorem Debt.damage {rect : Rect} (member : a ∈ s.accepted ++ s.acceptedBy (.damage lease rect intent))
    (old : a ∈ s.accepted → s.Debt a) (spares : s.SparesCommand marker (.damage lease rect intent)) :
    (s.next (.command (.damage lease rect intent) now marker)).Debt a := by
  by_cases shows : s.panel.foreground = some lease
  · have meets := handleDamage_meets (s.env now marker) intent shows (spares shows)
    have diverts : s.divertsCommand (.damage lease rect intent) = s.panel.diverts lease := by
      simp [divertsCommand, shows]
    rcases List.mem_append.mp member with before | new
    · exact (old before).keep meets.surfaces meets.foreground meets.longer (fun _ => meets.canonical) meets.deferredDamage
    · simp only [acceptedBy, shows, if_true, Option.mem_toList, Option.map_eq_some_iff] at new
      obtain ⟨shmKey, connected, rfl⟩ := new
      rintro _ x y ⟨covers, column, row⟩
      rcases meets.pixels shmKey connected x y covers column row with ⟨diverted, waits⟩ | ⟨copy, copies, key, covers, at_⟩
      · exact .inr (.inl ⟨advance_diverted (.inr (diverts.trans diverted)) waits, waits⟩)
      · exact .inl (copied_of_new (s := s) (le_refl _) copies key covers (le_of_eq at_.symm))
  · have none : s.acceptedBy (.damage lease rect intent) = [] := by simp [acceptedBy, shows]
    have same : (s.panel.handleDamage (s.env now marker) lease rect intent).2 = s.panel := by
      simp [PanelRuntime.handleDamage, shows]
    rw [none, List.append_nil] at member
    exact (old member).same same

open PanelRuntime in
theorem Debt.flushDeferred (debt : s.Debt a) (commit : a.commit ≤ (s.shm a.shmKey).commitSequence)
    (stamp : a.copiesBefore ≤ s.panel.backend.copies.length) (spares : s.Spares (.flushDeferred now marker)) :
    (s.next (.flushDeferred now marker)).Debt a := by
  cases shows : s.panel.foreground with
  | none =>
    have same : (s.panel.flushDeferredDamage (s.env now marker)).2 = s.panel := by
      simp [flushDeferredDamage, shows]
    exact debt.same same
  | some lease =>
    cases waits : s.panel.telemetry.deferredDamage lease with
    | none =>
      have same : (s.panel.flushDeferredDamage (s.env now marker)).2 = s.panel := by
        simp [flushDeferredDamage, shows, waits]
      exact debt.same same
    | some damage =>
      have taken : (s.panel.flushDeferredDamage (s.env now marker)).2 =
          (handleDamage (s.env now marker)
            { s.panel with telemetry := s.panel.telemetry.discardDeferredDamage lease } lease damage.rect damage.intent).2 := by
        simp [flushDeferredDamage, shows, waits]
      have diverts : s.divertsDeferred = s.panel.diverts lease := by simp [divertsDeferred, shows, waits]
      have meets := handleDamage_meets (s.env now marker)
        (p := { s.panel with telemetry := s.panel.telemetry.discardDeferredDamage lease }) damage.intent shows
        (fun diverting => spares lease shows damage waits diverting)
      rw [← taken] at meets
      refine debt.carry rfl ?_ meets.longer ?_
      · rintro ⟨shown, connected⟩
        exact ⟨meets.foreground ▸ shown, meets.surfaces ▸ connected⟩
      · rintro ⟨shown, connected⟩ x y ⟨_, column, row⟩ (⟨diverted, covers⟩ | ⟨deferred, found, covers⟩)
        · have still := meets.canonical x y covers
          exact .inr (.inl ⟨advance_diverted (.inl diverted) still, still⟩)
        · -- The deferred damage of the visible lease is the one just taken.
          have same : lease = a.lease := Option.some.inj (shows.symm.trans (meets.foreground.symm.trans shown))
          subst same
          cases waits.symm.trans found
          have connected : s.panel.surfaces a.lease.key = some a.shmKey := meets.surfaces ▸ connected
          rcases meets.pixels a.shmKey connected x y covers column row with
            ⟨diverted, still⟩ | ⟨copy, copies, key, covers, reached⟩
          · exact .inr (.inl ⟨advance_diverted (.inr (diverts.trans diverted)) still, still⟩)
          · exact .inl (copied_of_new (s := s) stamp copies key covers (le_trans commit (le_of_eq reached.symm)))

/-- A step after which the damage does not show owes nothing for it. -/
theorem Debt.hidden (hidden : ¬ s.Visible a) : s.Debt a := fun shows => absurd shows hidden

open PanelRuntime in
/-- An attempt to switch the foreground, and the lock recorded after it. -/
theorem Debt.switchOutcome {outcome : Outcome} (debt : s.Debt a)
    (commit : a.commit ≤ (s.shm a.shmKey).commitSequence) (stamp : a.copiesBefore ≤ s.panel.backend.copies.length)
    (switch : SwitchOutcome (s.env now marker) s.panel lease outcome) (spares : s.SparesSwitch lease marker)
    (same : p.surfaces = outcome.2.surfaces ∧ p.foreground = outcome.2.foreground ∧
      p.backend = outcome.2.backend ∧ p.canonicalDirty = outcome.2.canonicalDirty ∧
      p.telemetry.deferredDamage = outcome.2.telemetry.deferredDamage) : (s.advance p accepted diverts).Debt a := by
  obtain ⟨surfaces, foreground, backend, canonical, deferred⟩ := same
  have settled : (s.advance outcome.2 accepted diverts).Debt a := by
    rcases switch with ⟨_, unchanged, _⟩ | ⟨shmKey, registered, switched, _⟩
    · exact debt.same unchanged
    · exact debt.switch commit stamp registered switched spares
  intro shows x y inside
  have owed := settled ⟨foreground ▸ shows.1, surfaces ▸ shows.2⟩ x y inside
  simpa only [Copied, Deferred, advance, backend, canonical, deferred] using owed

open PanelRuntime in
/-- One command keeps the debts there are. -/
theorem Debt.command {command : PanelCommand} (debt : s.Debt a) (member : a ∈ s.accepted)
    (commit : a.commit ≤ (s.shm a.shmKey).commitSequence) (stamp : a.copiesBefore ≤ s.panel.backend.copies.length)
    (spares : s.SparesCommand marker command) : (s.next (.command command now marker)).Debt a := by
  cases command with
  | damage lease rect intent => exact Debt.damage (List.mem_append_left _ member) (fun _ => debt) spares
  | registerSurface key shmKey =>
    refine debt.carry rfl ?_ List.prefix_rfl ?_
    · rintro ⟨shows, connected⟩
      have connected : Function.update s.panel.surfaces key (some shmKey) a.lease.key = some a.shmKey := connected
      by_cases same : a.lease.key = key
      · simp only [same, Function.update_self, Option.some.injEq] at connected
        exact absurd connected.symm (spares a member shows same)
      · rw [Function.update_of_ne same] at connected
        exact ⟨shows, connected⟩
    · rintro _ x y _ (⟨diverted, covers⟩ | waits)
      · exact .inr (.inl ⟨advance_diverted (.inl diverted) covers, covers⟩)
      · exact .inr (.inr waits)
  | dropSurface key =>
    obtain ⟨surfaces, backend, kept | ⟨cleared, _⟩⟩ := dropSurface_spec (p := s.panel) key
    · obtain ⟨foreground, _, _, _, canonical, telemetry⟩ := kept
      have other : (s.next (.command (.dropSurface key) now marker)).Visible a → a.lease.key ≠ key := by
        rintro ⟨_, connected⟩ same
        have connected : (s.panel.dropSurface key).surfaces a.lease.key = some a.shmKey := connected
        simp [surfaces, same] at connected
      refine debt.carry rfl (fun shows => ?_) (by simp [next, advance, handle, backend]) ?_
      · have connected : (s.panel.dropSurface key).surfaces a.lease.key = some a.shmKey := shows.2
        rw [surfaces, Function.update_of_ne (other shows)] at connected
        exact ⟨foreground ▸ shows.1, connected⟩
      · rintro shows x y _ (⟨diverted, covers⟩ | ⟨damage, waits, covers⟩)
        · have still : (s.panel.dropSurface key).canonicalDirty.Covers x y := canonical ▸ covers
          exact .inr (.inl ⟨advance_diverted (.inl diverted) still, still⟩)
        · refine .inr (.inr ⟨damage, ?_, covers⟩)
          show (s.panel.dropSurface key).telemetry.deferredDamage a.lease = some damage
          simp [telemetry, PanelTelemetry.discardDeferredDamageForKey, other shows, waits]
    · refine Debt.hidden fun shows => ?_
      have shown : (s.panel.dropSurface key).foreground = some a.lease := shows.1
      simp [cleared] at shown
  | setForeground lease fullRefresh =>
    exact debt.switchOutcome commit stamp (setForeground_spec (s.env now marker) lease fullRefresh) spares ⟨rfl, rfl, rfl, rfl, rfl⟩
  | activateForeground lease inkEnabled fullRefresh =>
    exact debt.switchOutcome commit stamp (activateForeground_spec (s.env now marker) lease inkEnabled fullRefresh) spares
      ⟨rfl, rfl, rfl, rfl, rfl⟩
  | clearForeground lease =>
    rcases clearForeground_spec (p := s.panel) lease with ⟨same, _⟩ | ⟨cleared, _⟩
    · exact debt.same same
    · refine Debt.hidden fun shows => ?_
      have shown : (s.panel.clearForeground lease).foreground = some a.lease := shows.1
      simp [cleared, clearForegroundUnchecked] at shown
  | configureInk lease enabled region =>
    rcases configureInk_spec (p := s.panel) lease enabled region with ⟨error, refused⟩ | ⟨current, configured⟩
    · exact debt.same (congrArg Prod.snd refused)
    · have undiverted := spares current
      refine debt.keep (p := (s.panel.configureInk lease enabled region).2) ?_ ?_ ?_ ?_ ?_
      · rw [configured]; rfl
      · rw [configured]; rfl
      · rw [configured]; exact List.prefix_rfl
      · simp [undiverted]
      · rw [configured]; rfl
  | pen lease frame =>
    have step := handlePen_spec (s.env now marker) (p := s.panel) lease frame
    refine debt.keep (p := (s.panel.handlePen (s.env now marker) lease frame).2) step.surfaces step.foreground
      (step.copies ▸ List.prefix_rfl) (fun diverted x y covers => ?_) step.deferredDamage
    refine handlePen_canonical (s.env now marker) (fun valid moving => ?_) (fun cancelled => ?_) covers
    · have spares := spares valid
      by_cases cancel : frame.phase = .cancel
      · simp only [cancel, if_true, diverted] at spares
        exact absurd spares (by simp)
      · rw [if_neg cancel] at spares
        exact spares moving
    · have spares := spares cancelled.1
      simp [cancelled.2, diverted] at spares
  | fullRefresh lease =>
    rcases fullRefresh_spec (s.env now marker) (p := s.panel) lease with same | ⟨rect, presented⟩
    · exact debt.same same
    · obtain ⟨view, copies⟩ := presentSurface_spec (s.env now marker) (p := s.panel) lease rect .full .fullRefresh
      rw [← presented] at view copies
      exact debt.keep (p := (s.panel.fullRefresh (s.env now marker) lease).2) view.surfaces view.foreground
        ⟨_, copies.symm⟩ (fun _ x y covers => view.canonicalDirty ▸ covers) view.deferredDamage
  | showLock lease sleepEpoch =>
    obtain ⟨result, q, switch, same | ⟨_, sequence, locked⟩⟩ :=
      showLock_spec (s.env now marker) (p := s.panel) lease sleepEpoch
    · exact debt.switchOutcome commit stamp switch spares (by simp [handle, same])
    · exact debt.switchOutcome commit stamp switch spares (by simp [handle, locked, PanelTelemetry.commitLock])
  | refreshLock lease sleepEpoch =>
    obtain ⟨view, backend⟩ := refreshLock_spec (s.env now marker) (p := s.panel) lease sleepEpoch
    exact debt.keep (p := (s.panel.refreshLock (s.env now marker) lease sleepEpoch).2) view.surfaces view.foreground
      (backend ▸ List.prefix_rfl) (fun _ x y covers => view.canonicalDirty ▸ covers) view.deferredDamage
  | cancelLock lease sleepEpoch sequence =>
    have spec := cancelLock_spec (s.env now marker) (p := s.panel) lease sleepEpoch sequence
    generalize outcome : s.panel.cancelLock (s.env now marker) lease sleepEpoch sequence = result at spec
    have state : (s.next (.command (.cancelLock lease sleepEpoch sequence) now marker)) =
        s.advance result.2 [] false := by simp [next, handle, outcome, acceptedBy, divertsCommand]
    rw [state]
    cases spec with
    | failed error q view backend =>
      exact debt.keep view.surfaces view.foreground (backend ▸ List.prefix_rfl)
        (fun _ x y covers => view.canonicalDirty ▸ covers) view.deferredDamage
    | released q shmKey holds registered positive reached presented =>
      obtain ⟨view, copies⟩ := presentSurface_spec (s.env now marker) (p := s.panel) lease
        ((s.env now marker).shm shmKey).fullRect .full .unlockScreen
      rw [presented] at view copies
      exact debt.keep view.surfaces view.foreground ⟨_, copies.symm⟩
        (fun _ x y covers => view.canonicalDirty ▸ covers) view.deferredDamage
  | shutdown => exact debt.same rfl

open PanelRuntime in
/-- Settling pays the debts it clears, unless diverted damage waits without a newer commit. -/
theorem Debt.flushDeadlines (debt : s.Debt a) (held : s.panel.InkHeld)
    (commit : a.commit ≤ (s.shm a.shmKey).commitSequence) (stamp : a.copiesBefore ≤ s.panel.backend.copies.length)
    (spares : s.Spares (.flushDeadlines now marker)) : (s.next (.flushDeadlines now marker)).Debt a := by
  obtain ⟨q, view, backend, same | settles⟩ := flushDeadlines_spec (s.env now marker) (p := s.panel)
  · refine debt.keep (p := (s.panel.flushDeadlines (s.env now marker)).2) ?_ ?_ ?_ ?_ ?_
    all_goals rw [same]
    · exact view.surfaces
    · exact view.foreground
    · exact backend ▸ List.prefix_rfl
    · exact fun _ x y covers => view.canonicalDirty ▸ covers
    · exact view.deferredDamage
  have newer : q.canonicalIsNewer (s.env now marker) = s.panel.canonicalIsNewer (s.env now marker) := by
    simp [canonicalIsNewer, PanelRuntime.surface, view.surfaces, view.ink, view.inkBeginSequence]
  have retry : q.retryAllowed (s.env now marker) = s.panel.retryAllowed (s.env now marker) := by
    simp [retryAllowed, view.settleStarted]
  have state : s.next (.flushDeadlines now marker) =
    s.advance (s.panel.flushDeadlines (s.env now marker)).2 [] false := rfl
  rw [state]
  generalize (s.panel.flushDeadlines (s.env now marker)).2 = r at settles
  cases settles with
  | early =>
    exact debt.keep view.surfaces view.foreground (backend ▸ List.prefix_rfl)
      (fun _ x y covers => view.canonicalDirty ▸ covers) view.deferredDamage
  | retry settling =>
    exact debt.keep view.surfaces view.foreground (backend ▸ List.prefix_rfl)
      (fun _ x y covers => view.canonicalDirty ▸ covers) view.deferredDamage
  | cleared due older expired =>
    refine debt.keep view.surfaces view.foreground (backend ▸ List.prefix_rfl) (fun diverted x y covers => ?_)
      view.deferredDamage
    exfalso
    cases fresh : q.canonicalIsNewer (s.env now marker) with
    | true =>
      rcases older fresh with empty | disabled
      · rw [view.canonicalDirty] at empty
        simp [covers.1] at empty
      · have settling : q.settleDeadline.isSome = true := by
          cases deadline : q.settleDeadline with
          | none => simp [deadline] at due
          | some _ => rfl
        have enabled := held.2 (view.settleDeadline ▸ settling)
        rw [← view.ink, disabled] at enabled
        simp at enabled
    | false =>
      have undiverted := spares (view.settleDeadline ▸ due) (newer ▸ fresh) (retry ▸ expired fresh)
      simp [undiverted] at diverted
  | copied fresh enabled r settled copies =>
    refine debt.carry rfl ?_ ?_ ?_
    · rintro ⟨shows, connected⟩
      exact ⟨(settled.foreground.trans view.foreground) ▸ shows, (settled.surfaces.trans view.surfaces) ▸ connected⟩
    · exact ⟨_, by rw [← backend]; exact copies.symm⟩
    · rintro ⟨shows, connected⟩ x y ⟨_, column, row⟩ (⟨diverted, covers⟩ | ⟨damage, waits, covers⟩)
      · left
        have shown : q.foreground = some a.lease := settled.foreground ▸ shows
        have surface : q.surfaces a.lease.key = some a.shmKey := settled.surfaces ▸ connected
        have same : q.ink.lease = a.lease := by
          have inked := held.1 (view.ink ▸ enabled)
          rw [← view.foreground, ← view.ink, shown] at inked
          exact (Option.some.inj inked).symm
        have bounded := (s.shm a.shmKey).bounded
        have wide : (8192 : Int) ≤ i32Max := by decide
        have clipped : (q.canonicalDirty.clip (s.shm a.shmKey).width (s.shm a.shmKey).height).Covers x y :=
          (Rect.clip_covers (by omega) (by omega)).mpr (by
            rw [view.canonicalDirty]
            exact ⟨⟨covers.2.1, covers.2.2.1, column⟩, covers.2.2.2.1, covers.2.2.2.2, row⟩)
        have made : q.presentedCopy (s.env now marker) q.ink.lease q.canonicalDirty = some ⟨a.shmKey,
            q.canonicalDirty.clip (s.shm a.shmKey).width (s.shm a.shmKey).height,
            (s.shm a.shmKey).commitSequence⟩ := by
          simp [presentedCopy, same, shown, surface, clipped.1, env]
        rw [made, backend] at copies
        exact copied_of_new (s := s) stamp copies rfl clipped commit
      · right; right
        refine ⟨damage, ?_, covers⟩
        show r.telemetry.deferredDamage a.lease = some damage
        rw [settled.deferredDamage]
        exact (congrFun view.deferredDamage a.lease).trans waits

/-- Deferring damage grows what waits. -/
theorem deferDamage_covers {t : PanelTelemetry} {rect : Rect}
    (fits : ∀ damage ∈ t.deferredDamage lease, damage.rect.UnionFits rect) {x y : Int}
    (inside : rect.Covers x y ∨ ∃ damage, t.deferredDamage lease = some damage ∧ damage.rect.Covers x y) :
    ∃ damage, (t.deferDamage lease rect intent).deferredDamage lease = some damage ∧ damage.rect.Covers x y := by
  cases waits : t.deferredDamage lease with
  | none =>
    rcases inside with new | ⟨damage, found, _⟩
    · exact ⟨⟨rect, intent⟩, by simp [PanelTelemetry.deferDamage, waits], new⟩
    · simp [waits] at found
  | some old =>
    refine ⟨⟨old.rect.union rect, strongerIntent old.intent intent⟩, by simp [PanelTelemetry.deferDamage, waits], ?_⟩
    refine Rect.union_covers (fits old waits) ?_
    rcases inside with new | ⟨damage, found, covers⟩
    · exact .inr new
    · cases waits.symm.trans found
      exact .inl covers

theorem Debt.defer {shmKey : Nat} {rect : Rect} (member : a ∈ s.accepted ++ [s.accept lease shmKey rect])
    (old : a ∈ s.accepted → s.Debt a) (spares : s.Spares (.defer lease shmKey rect intent)) :
    (s.next (.defer lease shmKey rect intent)).Debt a := by
  rcases List.mem_append.mp member with before | new
  · refine (old before).carry rfl id List.prefix_rfl ?_
    rintro _ x y _ (⟨diverted, covers⟩ | ⟨damage, waits, covers⟩)
    · exact .inr (.inl ⟨advance_diverted (.inl diverted) covers, covers⟩)
    · right; right
      by_cases same : a.lease = lease
      · subst same
        exact deferDamage_covers spares (.inr ⟨damage, waits, covers⟩)
      · refine ⟨damage, ?_, covers⟩
        show (s.panel.telemetry.deferDamage lease rect intent).deferredDamage a.lease = some damage
        simp [PanelTelemetry.deferDamage, Function.update_of_ne same, waits]
  · obtain rfl : a = s.accept lease shmKey rect := by simpa using new
    rintro _ x y ⟨covers, _, _⟩
    exact .inr (.inr (deferDamage_covers spares (.inl covers)))

theorem Debt.client {shmKey : Nat} {bytes : Array UInt8} {refreshMode : Int} {commits : Bool} (debt : s.Debt a) :
    (s.next (.client shmKey bytes refreshMode commits)).Debt a := by
  rintro shows x y ⟨covers, column, row⟩
  refine debt shows x y ⟨covers, ?_⟩
  by_cases same : a.shmKey = shmKey
  · simpa [next, same] using And.intro column row
  · simpa [next, Function.update_of_ne same] using And.intro column row

/-! ## Runs -/

theorem advance_sound (sound : s.Sound) (held : p.InkHeld) (longer : s.panel.backend.copies <+: p.backend.copies)
    (fresh : ∀ a ∈ accepted, a.commit = (s.shm a.shmKey).commitSequence ∧
      a.copiesBefore = s.panel.backend.copies.length)
    (debts : ∀ a ∈ s.accepted ++ accepted, (s.advance p accepted diverts).Debt a) :
    (s.advance p accepted diverts).Sound := by
  refine ⟨held.1, held.2, fun a member => ?_, fun a member => ?_, debts⟩
  · rcases List.mem_append.mp member with before | new
    · exact sound.commits a before
    · exact le_of_eq (fresh a new).1
  · rcases List.mem_append.mp member with before | new
    · exact (sound.stamps a before).trans longer.length_le
    · exact (fresh a new).2 ▸ longer.length_le

theorem acceptedBy_fresh {command : PanelCommand} (member : a ∈ s.acceptedBy command) :
    a.commit = (s.shm a.shmKey).commitSequence ∧ a.copiesBefore = s.panel.backend.copies.length := by
  cases command with
  | damage lease rect intent =>
    by_cases shows : s.panel.foreground = some lease
    · simp only [acceptedBy, shows, if_true, Option.mem_toList, Option.map_eq_some_iff] at member
      obtain ⟨shmKey, _, rfl⟩ := member
      exact ⟨rfl, rfl⟩
    · simp [acceptedBy, shows] at member
  | _ => simp [acceptedBy] at member

theorem next_sound (event : ScreenEvent) (sound : s.Sound) (spares : s.Spares event) : (s.next event).Sound := by
  have held : s.panel.InkHeld := ⟨sound.ink, sound.settling⟩
  cases event with
  | client shmKey bytes refreshMode commits =>
    refine ⟨sound.ink, sound.settling, fun a member => ?_, sound.stamps, fun a member => (sound.debts a member).client⟩
    have commit := sound.commits a member
    by_cases same : a.shmKey = shmKey
    · by_cases counts : commits = true
      · simp [next, same, counts] at commit ⊢
        omega
      · simpa [next, same, counts] using commit
    · simpa [next, Function.update_of_ne same] using commit
  | defer lease shmKey rect intent =>
    refine advance_sound sound held List.prefix_rfl ?_ fun a member => Debt.defer member (sound.debts a) spares
    intro a member
    obtain rfl : a = s.accept lease shmKey rect := by simpa using member
    exact ⟨rfl, rfl⟩
  | command command now marker =>
    obtain ⟨held, longer⟩ := PanelRuntime.handle_keeps (s.env now marker) command held
    refine advance_sound sound held longer (fun a => acceptedBy_fresh) fun a member => ?_
    rcases List.mem_append.mp member with before | new
    · exact (sound.debts a before).command before (sound.commits a before) (sound.stamps a before) spares
    · cases command with
      | damage lease rect intent => exact Debt.damage member (sound.debts a) spares
      | _ => simp [acceptedBy] at new
  | flushDeferred now marker =>
    have keeps : (s.panel.flushDeferredDamage (s.env now marker)).2.InkHeld ∧
        s.panel.backend.copies <+: (s.panel.flushDeferredDamage (s.env now marker)).2.backend.copies := by
      unfold PanelRuntime.flushDeferredDamage
      split
      · exact ⟨held, List.prefix_rfl⟩
      split
      · exact ⟨held, List.prefix_rfl⟩
      · exact PanelRuntime.handleDamage_keeps _ _ _ _ held
    refine advance_sound sound keeps.1 keeps.2 (by simp) fun a member => ?_
    have member : a ∈ s.accepted := by simpa using member
    exact (sound.debts a member).flushDeferred (sound.commits a member) (sound.stamps a member) spares
  | flushDeadlines now marker =>
    have keeps : (s.panel.flushDeadlines (s.env now marker)).2.InkHeld ∧
        s.panel.backend.copies <+: (s.panel.flushDeadlines (s.env now marker)).2.backend.copies := by
      obtain ⟨q, view, backend, same | settles⟩ := PanelRuntime.flushDeadlines_spec (s.env now marker) (p := s.panel)
      · rw [same, backend]
        exact ⟨held.view view, List.prefix_rfl⟩
      · exact ⟨settles.inkHeld (held.view view), backend ▸ settles.longer⟩
    refine advance_sound sound keeps.1 keeps.2 (by simp) fun a member => ?_
    have member : a ∈ s.accepted := by simpa using member
    exact (sound.debts a member).flushDeadlines held (sound.commits a member) (sound.stamps a member) spares

end Screen

/-- In every run whose steps drop no diverted damage, each pixel of accepted damage
    whose lease and surface show has been copied since, from a commit that has the
    damage, or waits in `canonical_dirty` or in the deferred damage. -/
theorem accepted_damage_kept (shm : Nat → SharedSurface) (backend : PanelBackend) (events : List ScreenEvent)
    (spares : Runs.Along Screen.next Screen.Spares (.start shm backend) events) :
    let s := events.foldl Screen.next (.start shm backend)
    ∀ a ∈ s.accepted, s.Visible a → ∀ x y, s.OnSurface a x y →
      s.Copied a x y ∨ s.panel.canonicalDirty.Covers x y ∨ s.Deferred a.lease x y := by
  intro s a member shows x y inside
  have sound : s.Sound := spares.invariant Screen.Sound (fun _ event sound spares => Screen.next_sound event sound spares)
    (Screen.start_sound shm backend)
  rcases sound.debts a member shows x y inside with copied | ⟨_, waits⟩ | waits
  · exact .inl copied
  · exact .inr (.inl waits)
  · exact .inr (.inr waits)

/-! ## A stroke over damage -/

namespace Sample

def tile : SharedSurface :=
  ⟨1, 2, 2, by decide, by decide, 4, .rgb565, #[0, 0, 0, 0, 0, 0, 0, 0], refreshModeUi, 0⟩

def glass : PanelBackend := ⟨2, 2, 8, by decide, Array.replicate 16 0xff, []⟩

def lease : PanelLease := ⟨1, 1, 1⟩

def penAt (phase : PenPhase) : PenFrame := ⟨phase, .pen, 0, 0, 100, 4096⟩

/-- One turn of the worker's loop. -/
def turn (now : Int) (command : PanelCommand) : List ScreenEvent :=
  [.command command now (some 1), .flushDeferred now (some 1), .flushDeadlines now (some 1)]

def commit : ScreenEvent := .client 7 #[0, 0, 0, 0, 0, 0, 0, 0] refreshModeUi true

/-- An application with direct ink is shown, the pen goes down, and the
    application commits a frame and reports its damage. -/
def stroke : List ScreenEvent :=
  turn 0 (.registerSurface 1 7) ++ turn 1 (.activateForeground lease true true) ++
    turn 2 (.pen lease (penAt .down)) ++ [commit] ++ turn 3 (.damage lease ⟨1, 1, 1, 1⟩ .monoQuality)

/-- The pen goes up, and the stroke settles over the commit. -/
def settled : List ScreenEvent :=
  stroke ++ turn 4 (.pen lease (penAt .up)) ++ turn 400 (.fullRefresh ⟨2, 1, 1⟩)

/-- The application turns direct ink off while the pen is down. -/
def reconfigured : List ScreenEvent := stroke ++ turn 4 (.configureInk lease false none)

end Sample

instance (s : Screen) (lease : PanelLease) (marker : Option Nat) : Decidable (s.SparesSwitch lease marker) :=
  inferInstanceAs (Decidable (_ → _))

instance (s : Screen) (marker : Option Nat) : (command : PanelCommand) → Decidable (s.SparesCommand marker command)
  | .registerSurface _ _ => inferInstanceAs (Decidable (∀ a ∈ s.accepted, _))
  | .damage _ _ _ => inferInstanceAs (Decidable (_ → _))
  | .setForeground lease _ => inferInstanceAs (Decidable (s.SparesSwitch lease marker))
  | .activateForeground lease _ _ => inferInstanceAs (Decidable (s.SparesSwitch lease marker))
  | .showLock lease _ => inferInstanceAs (Decidable (s.SparesSwitch lease marker))
  | .configureInk _ _ _ => inferInstanceAs (Decidable (_ → _))
  | .pen _ _ => inferInstanceAs (Decidable (_ → ite _ _ _))
  | .dropSurface _ | .clearForeground _ | .fullRefresh _ | .refreshLock _ _ | .cancelLock _ _ _ | .shutdown =>
    isTrue trivial

instance (s : Screen) : (event : ScreenEvent) → Decidable (s.Spares event)
  | .client _ _ _ _ => isTrue trivial
  | .defer lease _ _ _ => inferInstanceAs (Decidable (∀ damage ∈ s.panel.telemetry.deferredDamage lease, _))
  | .command command _ marker => inferInstanceAs (Decidable (s.SparesCommand marker command))
  | .flushDeferred _ _ => inferInstanceAs (Decidable (∀ lease ∈ s.panel.foreground, ∀ damage ∈ _, _))
  | .flushDeadlines _ _ => inferInstanceAs (Decidable (_ → _))

open Sample in
theorem accepted_damage_kept_settled :
    let s := settled.foldl Screen.next (.start (fun _ => tile) glass)
    ∀ a ∈ s.accepted, s.Visible a → ∀ x y, s.OnSurface a x y →
      s.Copied a x y ∨ s.panel.canonicalDirty.Covers x y ∨ s.Deferred a.lease x y :=
  accepted_damage_kept (fun _ => tile) glass settled (by decide)

open Sample in
/-- Reconfiguring ink during a stroke drops the damage that the stroke diverted. -/
theorem reconfigured_ink_drops_damage :
    ¬ ∀ (shm : Nat → SharedSurface) (backend : PanelBackend) (events : List ScreenEvent),
      let s := events.foldl Screen.next (.start shm backend)
      ∀ a ∈ s.accepted, s.Visible a → ∀ x y, s.OnSurface a x y →
        s.Copied a x y ∨ s.panel.canonicalDirty.Covers x y ∨ s.Deferred a.lease x y := by
  intro kept
  let s := reconfigured.foldl Screen.next (.start (fun _ => tile) glass)
  have accepted : s.accepted = [⟨lease, 7, ⟨1, 1, 1, 1⟩, 1, 1⟩] := by decide
  have copies : s.panel.backend.copies.drop 1 = [] := by decide
  have canonical : s.panel.canonicalDirty = default := by decide
  have deferred : s.panel.telemetry.deferredDamage lease = none := by decide
  have shows : s.Visible ⟨lease, 7, ⟨1, 1, 1, 1⟩, 1, 1⟩ :=
    (by decide : s.panel.foreground = some lease ∧ s.panel.surfaces 1 = some 7)
  have inside : s.OnSurface ⟨lease, 7, ⟨1, 1, 1, 1⟩, 1, 1⟩ 1 1 :=
    ⟨by decide, (by decide : (0 : Int) ≤ 1 ∧ (1 : Int) < 2), (by decide : (0 : Int) ≤ 1 ∧ (1 : Int) < 2)⟩
  rcases kept (fun _ => tile) glass reconfigured _ (accepted ▸ List.mem_singleton.mpr rfl) shows 1 1 inside with
    ⟨copy, member, _⟩ | covers | ⟨damage, waits, _⟩
  · exact absurd (copies ▸ member) List.not_mem_nil
  · exact Rect.not_covers_default 1 1 (canonical ▸ covers)
  · exact absurd (deferred.symm.trans waits) (by simp)

end Remagic.Display
