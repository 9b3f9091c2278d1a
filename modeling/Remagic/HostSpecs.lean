import Remagic.DisplayHost

/-!
# What the host's operations do

One specification for each building block that the operations share (a packet
sent, a fence of the contacts) and one list of all that an operation can have
done to the host's state, with the guards it passed.
-/

namespace Remagic.Display
open Fallible
namespace HostState

variable {s : HostState} {lease : PanelLease}

/-! ## The channel -/

/-- The state with a command at the end of the panel's queue. -/
def sent (s : HostState) (command : PanelCommand) : HostState :=
  { s with panel := { s.panel with commands := s.panel.commands ++ [command] } }

theorem trySend_spec (channel : CommandChannel) (command : PanelCommand) :
    (∃ error, channel.trySend command = .error error) ∨
    channel.connected = true ∧
      channel.trySend command = .ok { channel with commands := channel.commands ++ [command] } := by
  unfold CommandChannel.trySend
  by_cases connected : channel.connected = true
  · by_cases full : channel.commands.length ≥ panelQueueCapacity
    · exact .inl ⟨_, by simp [connected, full]; rfl⟩
    · exact .inr ⟨connected, by simp [connected, full]⟩
  · exact .inl ⟨_, by simp [connected]; rfl⟩

theorem offerPanel_spec (command : PanelCommand) : s.offerPanel command = s ∨ s.offerPanel command = s.sent command := by
  unfold offerPanel
  rcases trySend_spec s.panel command with ⟨error, refused⟩ | ⟨_, accepted⟩
  · exact .inl (by rw [refused])
  · exact .inr (by rw [accepted]; rfl)

theorem enqueuePanel_rule {α : Type} {origin : HostState} {command : PanelCommand} {next : Unit → Hosted α}
    {post : α → HostState → Prop} (same : origin = s) (rest : AllOrNothing origin (next ()) (s.sent command) post) :
    AllOrNothing origin (enqueuePanel command >>= next) s post := by
  unfold enqueuePanel
  rw [bind_assoc]
  apply allOrNothing_get_bind
  rcases trySend_spec s.panel command with ⟨error, refused⟩ | ⟨_, accepted⟩
  · rw [refused]
    exact same ▸ rfl
  · rw [accepted]
    exact rest

/-! ## Packets -/

/-- The surfaces after packets were sent: the same ones, with some clients gone. -/
def Pruned (before after : Int → Option SurfaceEntry) : Prop :=
  ∀ key, Option.Rel (fun entry kept => kept.shmKey = entry.shmKey ∧ kept.clients.Sublist entry.clients)
    (before key) (after key)

theorem Pruned.refl (surfaces : Int → Option SurfaceEntry) : Pruned surfaces surfaces := by
  intro key
  cases surfaces key with
  | none => exact .none
  | some entry => exact .some ⟨rfl, List.Sublist.refl _⟩

theorem Pruned.trans {a b c : Int → Option SurfaceEntry} (first : Pruned a b) (second : Pruned b c) : Pruned a c := by
  intro key
  have left := first key
  have right := second key
  generalize a key = x at left
  generalize b key = y at left right
  generalize c key = z at right
  cases left with
  | none =>
    cases right
    exact .none
  | some kept =>
    cases right with
    | some again => exact .some ⟨again.1.trans kept.1, again.2.trans kept.2⟩

theorem Pruned.isSome {before after : Int → Option SurfaceEntry} (pruned : Pruned before after) (key : Int) :
    (after key).isSome = (before key).isSome := by
  have related := pruned key
  generalize before key = left at related
  generalize after key = right at related
  cases related <;> rfl

theorem pushTo_frame (delivery : Delivery) (clients : List Nat) (s : HostState) :
    (pushTo delivery clients s).2.1.Sublist clients ∧
    ∃ queues backpressure, (pushTo delivery clients s).2.2 =
      { s with queues := queues, inputBackpressure := backpressure } := by
  induction clients generalizing s with
  | nil => exact ⟨List.Sublist.refl _, s.queues, s.inputBackpressure, rfl⟩
  | cons client rest ih =>
    unfold pushTo
    rcases pushed : (s.queues client).push delivery with ⟨push, queue⟩
    simp only
    generalize queues : Function.update s.queues client queue = q
    generalize (if push = InputPush.coalesced ∨ push = InputPush.boundaryOverflow then s.inputBackpressure + 1
      else s.inputBackpressure) = n
    obtain ⟨fewer, later, count, same⟩ := ih { s with queues := q, inputBackpressure := n }
    by_cases delivered : push.delivered = true
    · simp only [delivered, if_true]
      exact ⟨fewer.cons_cons client, later, count, same⟩
    · simp only [delivered, Bool.false_eq_true, if_false]
      exact ⟨fewer.cons client, later, count, same⟩

theorem sendToKey_frame (s : HostState) (key : Int) (delivery : Delivery) :
    ∃ surfaces queues backpressure, Pruned s.surfaces surfaces ∧
      (s.sendToKey key delivery).2 =
        { s with surfaces := surfaces, queues := queues, inputBackpressure := backpressure } := by
  unfold sendToKey
  cases registered : s.surfaces key with
  | none => exact ⟨s.surfaces, s.queues, s.inputBackpressure, .refl _, rfl⟩
  | some entry =>
    obtain ⟨fewer, queues, backpressure, same⟩ := pushTo_frame delivery entry.clients s
    rcases pushed : pushTo delivery entry.clients s with ⟨delivered, kept, t⟩
    rw [pushed] at fewer same
    simp only at fewer same
    subst same
    refine ⟨Function.update s.surfaces key (some { entry with clients := kept }), queues, backpressure, ?_,
      by simp only [pushed]⟩
    intro other
    by_cases here : other = key
    · subst here
      rw [registered, Function.update_self]
      exact .some ⟨rfl, fewer⟩
    · rw [Function.update_of_ne here]
      exact Pruned.refl s.surfaces other

theorem releases_frame (key : Int) (devices : List Int) (s : HostState) :
    ∃ surfaces queues backpressure, Pruned s.surfaces surfaces ∧
      devices.foldl (releaseTouch key) s =
        { s with surfaces := surfaces, queues := queues, inputBackpressure := backpressure } := by
  induction devices generalizing s with
  | nil => exact ⟨s.surfaces, s.queues, s.inputBackpressure, .refl _, rfl⟩
  | cons deviceId rest ih =>
    obtain ⟨surfaces, queues, backpressure, pruned, same⟩ :=
      sendToKey_frame s key ⟨touchReleasePacket deviceId, s.contacts (.touch deviceId)⟩
    rw [List.foldl_cons]
    unfold releaseTouch at ih ⊢
    rw [same]
    obtain ⟨surfaces', queues', backpressure', pruned', same'⟩ :=
      ih { s with surfaces := surfaces, queues := queues, inputBackpressure := backpressure }
    exact ⟨surfaces', queues', backpressure', pruned.trans pruned', same'⟩

/-! ## The fence of the contacts -/

/-- Only the cancellation of a pen contact goes to the panel. -/
def OnlyPen (commands : List PanelCommand) : Prop := ∀ command ∈ commands, ∃ lease frame, command = .pen lease frame

/-- A fence opens a new input epoch and ends every contact: it suppresses what is
    left of them. -/
def fenced (s : HostState) (surfaces : Int → Option SurfaceEntry) (queues : Nat → InputQueue) (backpressure : Nat)
    (commands : List PanelCommand) : HostState :=
  { s with
    inputEpoch := s.inputEpoch + 1
    activePen := none
    activeTouches := []
    suppressedPen := s.suppressedPen || s.activePen.isSome
    suppressedTouches := s.activeTouches ∪ s.suppressedTouches
    panel := { s.panel with commands := s.panel.commands ++ commands }
    surfaces := surfaces
    queues := queues
    inputBackpressure := backpressure }

theorem fencePen_frame (s : HostState) :
    ∃ surfaces queues backpressure commands, Pruned s.surfaces surfaces ∧ OnlyPen commands ∧
      s.fencePen = { s with
        activePen := none
        suppressedPen := s.suppressedPen || s.activePen.isSome
        panel := { s.panel with commands := s.panel.commands ++ commands }
        surfaces := surfaces
        queues := queues
        inputBackpressure := backpressure } := by
  unfold fencePen
  cases active : s.activePen with
  | none =>
    refine ⟨s.surfaces, s.queues, s.inputBackpressure, [], .refl _, by simp [OnlyPen], ?_⟩
    cases s
    subst active
    simp
  | some contact =>
    obtain ⟨lease, last⟩ := contact
    obtain ⟨surfaces, queues, backpressure, pruned, same⟩ :=
      sendToKey_frame { s with activePen := none } lease.key ⟨penPacket last.cancelled, s.contacts .pen⟩
    simp only [same]
    rcases offerPanel_spec (s := { s with
      activePen := none, surfaces := surfaces, queues := queues, inputBackpressure := backpressure })
      (.pen lease last.cancelled) with refused | accepted
    · exact ⟨surfaces, queues, backpressure, [], pruned, by simp [OnlyPen], by rw [refused]; simp⟩
    · exact ⟨surfaces, queues, backpressure, [.pen lease last.cancelled], pruned, by simp [OnlyPen],
        by rw [accepted]; simp [sent]⟩

theorem fenceTouches_frame (s : HostState) :
    ∃ surfaces queues backpressure, Pruned s.surfaces surfaces ∧
      s.fenceTouches = { s with
        activeTouches := []
        suppressedTouches := s.activeTouches ∪ s.suppressedTouches
        surfaces := surfaces
        queues := queues
        inputBackpressure := backpressure } := by
  unfold fenceTouches
  cases shows : s.foreground with
  | none => exact ⟨s.surfaces, s.queues, s.inputBackpressure, .refl _, by simp [← shows]⟩
  | some foreground =>
    obtain ⟨surfaces, queues, backpressure, pruned, same⟩ :=
      releases_frame foreground.key s.activeTouches { s with activeTouches := [] }
    exact ⟨surfaces, queues, backpressure, pruned, by simp [← shows, same]⟩

theorem fence_frame (s : HostState) :
    ∃ surfaces queues backpressure commands, Pruned s.surfaces surfaces ∧ OnlyPen commands ∧
      s.fenceInputContacts = s.fenced surfaces queues backpressure commands := by
  obtain ⟨surfaces, queues, backpressure, commands, pruned, pens, same⟩ :=
    fencePen_frame { s with inputEpoch := s.inputEpoch + 1 }
  unfold fenceInputContacts
  rw [same]
  obtain ⟨surfaces', queues', backpressure', pruned', same'⟩ := fenceTouches_frame { s with
    inputEpoch := s.inputEpoch + 1
    activePen := none
    suppressedPen := s.suppressedPen || s.activePen.isSome
    panel := { s.panel with commands := s.panel.commands ++ commands }
    surfaces := surfaces
    queues := queues
    inputBackpressure := backpressure }
  exact ⟨surfaces', queues', backpressure', commands, pruned.trans pruned', pens, same'⟩

/-! ## What the lock depends on -/

/-- The host's step left the leases and the lock alone and sent these commands. -/
structure Unmoved (s t : HostState) (commands : List PanelCommand) : Prop where
  lock : t.lock = s.lock
  foreground : t.foreground = s.foreground
  prepared : t.preparedForeground = s.preparedForeground
  fences : t.fences = s.fences
  lastSleepEpoch : t.lastSleepEpoch = s.lastSleepEpoch
  commands : t.panel.commands = s.panel.commands ++ commands

theorem Unmoved.requested {a b : HostState} {commands : List PanelCommand} (unmoved : Unmoved a b commands) :
    b.requested = a.requested := congrArg (Option.map _) unmoved.foreground

theorem Unmoved.trans {a b c : HostState} {first second : List PanelCommand} (left : Unmoved a b first)
    (right : Unmoved b c second) : Unmoved a c (first ++ second) :=
  ⟨right.lock.trans left.lock, right.foreground.trans left.foreground, right.prepared.trans left.prepared,
    right.fences.trans left.fences, right.lastSleepEpoch.trans left.lastSleepEpoch,
    by rw [right.commands, left.commands, List.append_assoc]⟩

theorem Unmoved.refl (a : HostState) : Unmoved a a [] := ⟨rfl, rfl, rfl, rfl, rfl, (List.append_nil _).symm⟩

theorem sent_unmoved (command : PanelCommand) : Unmoved s (s.sent command) [command] := ⟨rfl, rfl, rfl, rfl, rfl, rfl⟩

theorem fence_unmoved (s : HostState) : ∃ commands, OnlyPen commands ∧ Unmoved s s.fenceInputContacts commands := by
  obtain ⟨surfaces, queues, backpressure, commands, _, pens, same⟩ := fence_frame s
  exact ⟨commands, pens, by rw [same]; exact ⟨rfl, rfl, rfl, rfl, rfl, rfl⟩⟩

/-! ## Leases -/

/-- The lease is newer than every lease that the surface's fence has seen. -/
structure Admits (s : HostState) (lease : PanelLease) : Prop where
  positive : lease.generation ≠ 0 ∧ lease.foregroundEpoch ≠ 0
  connected : s.surfaceExists lease.key = true
  newer : ∀ generation epoch, s.fences lease.key = some (generation, epoch) →
    generation < lease.generation ∨ generation = lease.generation ∧ epoch < lease.foregroundEpoch

/-- The surface's fence has seen this lease or a newer one. -/
def Within (s : HostState) (lease : PanelLease) : Prop :=
  ∃ generation epoch, s.fences lease.key = some (generation, epoch) ∧
    (lease.generation < generation ∨ lease.generation = generation ∧ lease.foregroundEpoch ≤ epoch)

theorem Admits.not_within (admits : s.Admits lease) : ¬ s.Within lease := by
  rintro ⟨generation, epoch, recorded, older⟩
  have newer := admits.newer generation epoch recorded
  omega

theorem within_committed (lease : PanelLease) :
    (s.commitForegroundFence lease.key lease.generation lease.foregroundEpoch).Within lease :=
  ⟨lease.generation, lease.foregroundEpoch, by simp [commitForegroundFence], .inr ⟨rfl, le_rfl⟩⟩

/-- An admitted lease moves its surface's fence forward. -/
theorem Within.forward {lease other : PanelLease} (admits : s.Admits lease) (within : s.Within other) :
    (s.commitForegroundFence lease.key lease.generation lease.foregroundEpoch).Within other := by
  obtain ⟨generation, epoch, recorded, older⟩ := within
  by_cases same : other.key = lease.key
  · have newer := admits.newer generation epoch (same ▸ recorded)
    exact ⟨lease.generation, lease.foregroundEpoch, by simp [commitForegroundFence, same], by omega⟩
  · exact ⟨generation, epoch, by simp [commitForegroundFence, same, recorded], older⟩

theorem validateForegroundFence_rule {α : Type} {key : Int} {generation epoch : Nat} {next : Unit → Hosted α}
    {post : α → HostState → Prop}
    (rest : s.Admits ⟨key, generation, epoch⟩ → AllOrNothing s (next ()) s post) :
    AllOrNothing s (validateForegroundFence key generation epoch >>= next) s post := by
  unfold validateForegroundFence
  simp only [bind_assoc]
  apply allOrNothing_get_bind
  refine allOrNothing_failIf fun positive => allOrNothing_failIf fun connected => ?_
  have connected : s.surfaceExists key = true := by simpa using connected
  have positive : generation ≠ 0 ∧ epoch ≠ 0 := by omega
  cases recorded : s.fences key with
  | none => exact rest ⟨positive, connected, fun g e fence => by simp [recorded] at fence⟩
  | some fence =>
    refine allOrNothing_failIf fun fresh => rest ⟨positive, connected, fun g e same => ?_⟩
    rw [recorded, Option.some.injEq] at same
    subst same
    simp only at fresh ⊢
    omega

/-! ## What an operation has done -/

/-- All that an operation under the operations' lock can have done, with the guards
    it passed. `finished` comes from the panel's acknowledgement `cancelled`. -/
inductive Operated (cancelled : Nat) (s : HostState) : HostState → Prop
  | idle : Operated cancelled s s
  | shown (lease : PanelLease) (command : PanelCommand) (unlocked : s.lock = none)
      (shows : s.requested = some lease)
      (kind : command = .fullRefresh lease ∨ ∃ rect intent, command = .damage lease rect intent) :
      Operated cancelled s (s.sent command)
  | inked (foreground : ForegroundLease) (enabled : Bool) (region : Option Rect) (unlocked : s.lock = none)
      (shows : s.foreground = some foreground) :
      Operated cancelled s { s.sent (.configureInk foreground.panelLease enabled region) with
        foreground := some { foreground with inkEnabled := enabled } }
  | held (lock : LockLease) (command : PanelCommand) (locked : s.lock = some lock)
      (kind : command = .refreshLock lock.foreground.panelLease lock.sleepEpoch ∨
        ∃ sequence, command = .cancelLock lock.foreground.panelLease lock.sleepEpoch sequence) :
      Operated cancelled s (s.sent command)
  | switched (lease : ForegroundLease) (fullRefresh : Bool) (unlocked : s.lock = none)
      (admits : s.Admits lease.panelLease) :
      Operated cancelled s
        { ((s.sent (.setForeground lease.panelLease fullRefresh)).commitForegroundFence lease.key lease.generation
            lease.epoch).fenceInputContacts with
          preparedForeground := none, foreground := some lease }
  | prepared (lease : ForegroundLease) (unlocked : s.lock = none) (admits : s.Admits lease.panelLease) :
      Operated cancelled s
        { (s.commitForegroundFence lease.key lease.generation lease.epoch).fenceInputContacts with
          preparedForeground := some lease }
  | activated (lease : ForegroundLease) (inkEnabled fullRefresh : Bool) (unlocked : s.lock = none)
      (prepared : s.preparedForeground = some lease) :
      Operated cancelled s { s.sent (.activateForeground lease.panelLease inkEnabled fullRefresh) with
        foreground := some { lease with inkEnabled := inkEnabled }, preparedForeground := none }
  | withdrawn (unlocked : s.lock = none) : Operated cancelled s { s with preparedForeground := none }
  | cleared (lease : PanelLease) (unlocked : s.lock = none) (shows : s.requested = some lease) :
      Operated cancelled s
        { ({ s with preparedForeground := none }.sent (.clearForeground lease)).fenceInputContacts with
          foreground := none }
  | locked (lease : ForegroundLease) (sleepEpoch : Nat) (unlocked : s.lock = none)
      (unprepared : s.preparedForeground = none) (newer : s.lastSleepEpoch < sleepEpoch)
      (admits : s.Admits lease.panelLease) :
      Operated cancelled s
        { { (s.sent (.showLock lease.panelLease sleepEpoch)).commitForegroundFence lease.key lease.generation
              lease.epoch with
            lastSleepEpoch := sleepEpoch }.fenceInputContacts with
          foreground := some lease, lock := some ⟨sleepEpoch, lease⟩ }
  | finished (lock : LockLease) (locked : s.lock = some lock) (acknowledged : cancelled = lock.sleepEpoch) :
      Operated cancelled s (s.finishCancellation lock.sleepEpoch)

/-- An operation that fails changes nothing, and one that succeeds has done one of
    the things of the list. -/
theorem Operated.of_allOrNothing {cancelled : Nat} {α : Type} {operation : Hosted α}
    (spec : AllOrNothing s operation s fun _ t => Operated cancelled s t) : Operated cancelled s (operation.run s).2 := by
  rcases spec.cases with ⟨error, failed⟩ | ⟨result, after, ended, done⟩
  · rw [failed]
    exact .idle
  · rw [ended]
    exact done

theorem unlocked_of_passed {lock : Option LockLease} (passed : ¬ lock.isSome = true) : lock = none := by
  simpa using passed

variable {cancelled : Nat}

theorem setForeground_spec (key : Int) (generation epoch : Nat) (fullRefresh : Bool) :
    AllOrNothing s (setForeground key generation epoch fullRefresh) s fun _ t =>
      s.lock = none ∧ s.Admits ⟨key, generation, epoch⟩ ∧
      t = { ((s.sent (.setForeground ⟨key, generation, epoch⟩ fullRefresh)).commitForegroundFence key generation
              epoch).fenceInputContacts with
            preparedForeground := none, foreground := some ⟨key, generation, epoch, false⟩ } := by
  unfold setForeground
  apply allOrNothing_get_bind
  refine allOrNothing_failIf fun unlocked => validateForegroundFence_rule fun admits => ?_
  refine enqueuePanel_rule rfl (allOrNothing_modify_bind ?_)
  exact ⟨unlocked_of_passed unlocked, admits, rfl⟩

theorem setForeground_operated (key : Int) (generation epoch : Nat) (fullRefresh : Bool) :
    Operated cancelled s ((setForeground key generation epoch fullRefresh).run s).2 := by
  apply Operated.of_allOrNothing
  refine (setForeground_spec key generation epoch fullRefresh).weaken ?_
  rintro _ _ ⟨unlocked, admits, rfl⟩
  exact .switched ⟨key, generation, epoch, false⟩ fullRefresh unlocked admits

theorem prepareForeground_spec (key : Int) (generation epoch : Nat) :
    AllOrNothing s (prepareForeground key generation epoch) s fun _ t =>
      s.lock = none ∧ s.Admits ⟨key, generation, epoch⟩ ∧
      t = { (s.commitForegroundFence key generation epoch).fenceInputContacts with
            preparedForeground := some ⟨key, generation, epoch, false⟩ } := by
  unfold prepareForeground
  apply allOrNothing_get_bind
  refine allOrNothing_failIf fun unlocked => validateForegroundFence_rule fun admits => ?_
  exact allOrNothing_modify_bind ⟨unlocked_of_passed unlocked, admits, rfl⟩

theorem prepareForeground_operated (key : Int) (generation epoch : Nat) :
    Operated cancelled s ((prepareForeground key generation epoch).run s).2 := by
  apply Operated.of_allOrNothing
  refine (prepareForeground_spec key generation epoch).weaken ?_
  rintro _ _ ⟨unlocked, admits, rfl⟩
  exact .prepared ⟨key, generation, epoch, false⟩ unlocked admits

theorem activateForeground_spec (key : Int) (generation epoch : Nat) (inkEnabled fullRefresh : Bool) :
    AllOrNothing s (activateForeground key generation epoch inkEnabled fullRefresh) s fun _ t =>
      s.lock = none ∧ ∃ lease, s.preparedForeground = some lease ∧ lease.panelLease = ⟨key, generation, epoch⟩ ∧
      t = { s.sent (.activateForeground lease.panelLease inkEnabled fullRefresh) with
            foreground := some { lease with inkEnabled := inkEnabled }, preparedForeground := none } := by
  unfold activateForeground
  apply allOrNothing_get_bind
  refine allOrNothing_failIf fun unlocked => ?_
  cases prepared : s.preparedForeground with
  | none => exact allOrNothing_throw _
  | some lease =>
    refine allOrNothing_failIf fun same => enqueuePanel_rule rfl ?_
    obtain ⟨sameKey, sameGeneration, sameEpoch⟩ : lease.key = key ∧ lease.generation = generation ∧ lease.epoch = epoch := by
      simpa using same
    refine ⟨unlocked_of_passed unlocked, lease, rfl, ?_, rfl⟩
    rw [ForegroundLease.panelLease, sameKey, sameGeneration, sameEpoch]

theorem activateForeground_operated (key : Int) (generation epoch : Nat) (inkEnabled fullRefresh : Bool) :
    Operated cancelled s ((activateForeground key generation epoch inkEnabled fullRefresh).run s).2 := by
  apply Operated.of_allOrNothing
  refine (activateForeground_spec key generation epoch inkEnabled fullRefresh).weaken ?_
  rintro _ _ ⟨unlocked, lease, prepared, _, rfl⟩
  exact .activated lease inkEnabled fullRefresh unlocked prepared

theorem clearForegroundLocked_rule {post : Unit → HostState → Prop} (other : s.requested ≠ some lease → post () s)
    (shows : s.requested = some lease →
      post () { (s.sent (.clearForeground lease)).fenceInputContacts with foreground := none }) :
    AllOrNothing s (clearForegroundLocked lease) s post := by
  unfold clearForegroundLocked
  apply allOrNothing_get_bind
  by_cases requested : s.requested = some lease
  · simp only [requested, ne_eq, not_true_eq_false, if_false]
    refine enqueuePanel_rule rfl (allOrNothing_modify_bind ?_)
    have still : (s.sent (.clearForeground lease)).fenceInputContacts.requested = some lease := by
      obtain ⟨surfaces, queues, backpressure, commands, _, _, same⟩ := fence_frame (s.sent (.clearForeground lease))
      rw [same]
      exact requested
    have ends := shows requested
    show post () _
    simp only [still, if_true]
    exact ends
  · simp only [requested, ne_eq, not_false_eq_true, if_true]
    exact other requested

/-- The prepared lease is gone even when the panel's queue is full. -/
theorem clearForeground_operated : Operated cancelled s (clearForeground.run s).2 := by
  unfold clearForeground
  show Ends (get >>= _) s fun _ t => Operated cancelled s t
  apply ends_get_bind
  refine ends_failIf (fun _ => .idle) fun unlocked => ends_modify_bind ?_
  have unlocked := unlocked_of_passed unlocked
  cases shows : s.requested with
  | none => exact .withdrawn unlocked
  | some lease =>
    have spec : AllOrNothing { s with preparedForeground := none } (clearForegroundLocked lease)
        { s with preparedForeground := none } fun _ t => Operated cancelled s t :=
      clearForegroundLocked_rule (fun _ => .withdrawn unlocked) fun _ => .cleared lease unlocked shows
    rcases spec.cases with ⟨error, failed⟩ | ⟨result, after, ended, done⟩
    · show Operated cancelled s ((clearForegroundLocked lease).run { s with preparedForeground := none }).2
      rw [failed]
      exact .withdrawn unlocked
    · show Operated cancelled s ((clearForegroundLocked lease).run { s with preparedForeground := none }).2
      rw [ended]
      exact done

theorem enqueuePanel_last {origin : HostState} {command : PanelCommand} {post : Unit → HostState → Prop}
    (same : origin = s) (rest : post () (s.sent command)) : AllOrNothing origin (enqueuePanel command) s post := by
  have spec : AllOrNothing origin (enqueuePanel command >>= pure) s post := enqueuePanel_rule same rest
  rwa [bind_pure] at spec

theorem requestFullRefresh_spec : AllOrNothing s requestFullRefresh s fun _ t => Operated cancelled s t := by
  unfold requestFullRefresh
  apply allOrNothing_get_bind
  by_cases prepared : s.preparedForeground.isSome = true
  · simp only [prepared, if_true]
    exact .idle
  simp only [prepared, Bool.false_eq_true, if_false]
  cases held : s.lock with
  | some lock => exact enqueuePanel_last rfl (.held lock _ held (.inl rfl))
  | none =>
    cases shows : s.requested with
    | none => exact .idle
    | some lease => exact enqueuePanel_last rfl (.shown lease _ held shows (.inl rfl))

theorem requestFullRefresh_operated : Operated cancelled s (requestFullRefresh.run s).2 :=
  .of_allOrNothing requestFullRefresh_spec

theorem visibleLease_spec {key : Int} (visible : s.visibleLease key = some lease) :
    s.lock = none ∧ s.requested = some lease ∧ lease.key = key := by
  unfold visibleLease at visible
  split at visible
  · cases visible
  · rename_i hidden
    obtain ⟨shows, same⟩ := Option.filter_eq_some_iff.mp visible
    exact ⟨unlocked_of_passed fun locked => hidden (.inr locked), shows, by simpa using same⟩

theorem requestSurfaceFullRefresh_spec (key : Int) :
    AllOrNothing s (requestSurfaceFullRefresh key) s fun _ t => Operated cancelled s t := by
  unfold requestSurfaceFullRefresh
  apply allOrNothing_get_bind
  cases visible : s.visibleLease key with
  | none => exact .idle
  | some lease =>
    obtain ⟨unlocked, shows, _⟩ := visibleLease_spec visible
    exact enqueuePanel_last rfl (.shown lease _ unlocked shows (.inl rfl))

theorem requestSurfaceFullRefresh_operated (key : Int) :
    Operated cancelled s ((requestSurfaceFullRefresh key).run s).2 :=
  .of_allOrNothing (requestSurfaceFullRefresh_spec key)

/-- Damage that is deferred leaves the state alone, and its lease is the requested one. -/
theorem damage_spec (cancelled : Nat) (key : Int) (rect : Rect) (intent : RefreshIntent) :
    Operated cancelled s ((damage key rect intent).run s).2 ∧
    ∀ lease, ((damage key rect intent).run s).1 = .ok (some lease) →
      s.visibleLease key = some lease ∧ ((damage key rect intent).run s).2 = s := by
  unfold damage
  show Ends (get >>= _) s fun result t =>
    Operated cancelled s t ∧ ∀ lease, result = .ok (some lease) → s.visibleLease key = some lease ∧ t = s
  apply ends_get_bind
  cases visible : s.visibleLease key with
  | none => exact ⟨.idle, fun lease deferred => by cases deferred⟩
  | some lease =>
    obtain ⟨unlocked, shows, _⟩ := visibleLease_spec visible
    rcases trySend_spec s.panel (.damage lease rect intent) with ⟨error, refused⟩ | ⟨_, accepted⟩
    · simp only [refused]
      by_cases full : error.kind = .wouldBlock
      · simp only [full, if_true]
        exact ⟨.idle, fun other deferred => by cases deferred; exact ⟨rfl, rfl⟩⟩
      · simp only [full, if_false]
        exact ⟨.idle, fun other deferred => by cases deferred⟩
    · simp only [accepted]
      exact ⟨.shown lease _ unlocked shows (.inr ⟨rect, intent, rfl⟩), fun other deferred => by cases deferred⟩

/-- Damage that is not taken changes nothing. -/
theorem damage_refused (key : Int) (rect : Rect) (intent : RefreshIntent) :
    AllOrNothing s (damage key rect intent) s fun _ _ => True := by
  unfold damage
  apply allOrNothing_get_bind
  cases visible : s.visibleLease key with
  | none => exact trivial
  | some lease =>
    rcases trySend_spec s.panel (.damage lease rect intent) with ⟨error, refused⟩ | ⟨_, accepted⟩
    · simp only [refused]
      by_cases full : error.kind = .wouldBlock
      · simp only [full, if_true]
        exact trivial
      · simp only [full, if_false]
        exact allOrNothing_throw _
    · simp only [accepted]
      exact trivial

/-- A clearing that fails has withdrawn the prepared lease and nothing else. -/
theorem clearForeground_refused :
    Ends clearForeground s fun result t => ∀ error, result = .error error →
      t = s ∨ t = { s with preparedForeground := none } := by
  unfold clearForeground
  apply ends_get_bind
  refine ends_failIf (fun _ _ _ => .inl rfl) fun unlocked => ends_modify_bind ?_
  cases shows : s.requested with
  | none => exact ends_pure fun _ failed => by cases failed
  | some lease =>
    have spec : AllOrNothing { s with preparedForeground := none } (clearForegroundLocked lease)
        { s with preparedForeground := none } fun _ _ => True :=
      clearForegroundLocked_rule (fun _ => trivial) fun _ => trivial
    exact fun error failed => .inr (spec.refused failed)

/-- A lock is shown, or is the one that is shown already. -/
theorem showLock_spec (key : Int) (generation epoch sleepEpoch : Nat) :
    AllOrNothing s (showLock key generation epoch sleepEpoch) s fun _ t =>
      (∃ lock, s.lock = some lock ∧ lock.sleepEpoch = sleepEpoch ∧
        lock.foreground.panelLease = ⟨key, generation, epoch⟩ ∧ t = s) ∨
      s.lock = none ∧ s.preparedForeground = none ∧ s.lastSleepEpoch < sleepEpoch ∧ s.Admits ⟨key, generation, epoch⟩ ∧
        t = { { (s.sent (.showLock ⟨key, generation, epoch⟩ sleepEpoch)).commitForegroundFence key generation epoch with
                  lastSleepEpoch := sleepEpoch }.fenceInputContacts with
              foreground := some ⟨key, generation, epoch, false⟩
              lock := some ⟨sleepEpoch, ⟨key, generation, epoch, false⟩⟩ } := by
  unfold showLock
  refine allOrNothing_failIf fun _ => allOrNothing_get_bind (allOrNothing_failIf fun unprepared => ?_)
  cases held : s.lock with
  | some current =>
    simp only
    rw [← bind_pure (failIf _ _)]
    refine allOrNothing_failIf fun same => .inl ⟨current, rfl, ?_⟩
    simpa [not_or] using same
  | none =>
    refine allOrNothing_failIf fun newer => validateForegroundFence_rule fun admits => ?_
    refine enqueuePanel_rule rfl (allOrNothing_modify_bind (allOrNothing_modify_bind (.inr ?_)))
    exact ⟨rfl, by simpa using unprepared, by omega, admits, rfl⟩

theorem showLock_operated (key : Int) (generation epoch sleepEpoch : Nat) :
    Operated cancelled s ((showLock key generation epoch sleepEpoch).run s).2 := by
  apply Operated.of_allOrNothing
  refine (showLock_spec key generation epoch sleepEpoch).weaken ?_
  rintro _ _ (⟨_, _, _, _, rfl⟩ | ⟨unlocked, unprepared, newer, admits, rfl⟩)
  · exact .idle
  · exact .locked ⟨key, generation, epoch, false⟩ sleepEpoch unlocked unprepared newer admits

theorem refreshLock_spec (sleepEpoch : Nat) :
    AllOrNothing s (refreshLock sleepEpoch) s fun _ t => Operated cancelled s t := by
  unfold refreshLock
  apply allOrNothing_get_bind
  cases held : s.lock with
  | none => exact allOrNothing_throw _
  | some lock =>
    refine allOrNothing_failIf fun same => enqueuePanel_last rfl ?_
    exact .held lock _ held (.inl (by rw [not_not] at same; rw [same]))

theorem refreshLock_operated (sleepEpoch : Nat) : Operated cancelled s ((refreshLock sleepEpoch).run s).2 :=
  .of_allOrNothing (refreshLock_spec sleepEpoch)

theorem cancelLock_spec (shm : Nat → SharedSurface) (telemetry : PanelTelemetry) (sleepEpoch sequence : Nat) :
    AllOrNothing s (cancelLock shm telemetry sleepEpoch sequence) s fun _ t =>
      Operated telemetry.cancelledLockEpoch s t := by
  unfold cancelLock cancellableLock
  rw [bind_assoc]
  apply allOrNothing_get_bind
  cases held : s.lock with
  | none =>
    simp only [bind_assoc]
    exact allOrNothing_failIf fun _ => .idle
  | some lock =>
    simp only [bind_assoc]
    refine allOrNothing_failIf fun same => ?_
    rw [pure_bind]
    refine allOrNothing_failIf fun _ => ?_
    unfold validateReplacementSequence
    simp only [bind_assoc]
    apply allOrNothing_get_bind
    cases s.surfaces lock.foreground.key with
    | none => exact allOrNothing_throw _
    | some entry =>
      simp only [bind_assoc]
      refine allOrNothing_failIf fun _ => allOrNothing_failIf fun _ => ?_
      rw [not_not] at same
      subst same
      by_cases acknowledged : telemetry.cancelledLockEpoch = lock.sleepEpoch
      · simp only [acknowledged, if_true]
        exact allOrNothing_modify_bind (.finished lock held rfl)
      · simp only [acknowledged, if_false]
        exact enqueuePanel_rule rfl (.held lock _ held (.inr ⟨sequence, rfl⟩))

theorem cancelLock_operated (shm : Nat → SharedSurface) (telemetry : PanelTelemetry) (sleepEpoch sequence : Nat) :
    Operated telemetry.cancelledLockEpoch s ((cancelLock shm telemetry sleepEpoch sequence).run s).2 :=
  .of_allOrNothing (cancelLock_spec shm telemetry sleepEpoch sequence)

/-- An operation that waits for a cancellation has asked the panel to cancel the lock. -/
theorem cancelLock_waits (shm : Nat → SharedSurface) (telemetry : PanelTelemetry) (sleepEpoch sequence : Nat) :
    Ends (cancelLock shm telemetry sleepEpoch sequence) s fun result t =>
      ∀ waiting, result = .ok (some waiting) → ∃ lock, s.lock = some lock ∧ waiting = .lockCancellation lock.sleepEpoch ∧
        t = s.sent (.cancelLock lock.foreground.panelLease lock.sleepEpoch sequence) := by
  unfold cancelLock cancellableLock
  rw [bind_assoc]
  apply ends_get_bind
  cases held : s.lock with
  | none =>
    simp only [bind_assoc]
    refine ends_failIf (fun _ _ failed => by cases failed) fun _ => ?_
    rintro waiting ended
    cases ended
  | some lock =>
    simp only [bind_assoc]
    refine ends_failIf (fun _ _ failed => by cases failed) fun same => ?_
    rw [pure_bind]
    refine ends_failIf (fun _ _ failed => by cases failed) fun _ => ?_
    unfold validateReplacementSequence
    simp only [bind_assoc]
    apply ends_get_bind
    cases s.surfaces lock.foreground.key with
    | none => exact ends_throw fun _ failed => by cases failed
    | some entry =>
      simp only [bind_assoc]
      refine ends_failIf (fun _ _ failed => by cases failed) fun _ => ?_
      refine ends_failIf (fun _ _ failed => by cases failed) fun _ => ?_
      by_cases acknowledged : telemetry.cancelledLockEpoch = lock.sleepEpoch
      · simp only [acknowledged, if_true]
        rintro waiting ended
        cases ended
      · simp only [acknowledged, if_false]
        unfold enqueuePanel
        simp only [bind_assoc]
        apply ends_get_bind
        rcases trySend_spec s.panel
          (.cancelLock lock.foreground.panelLease lock.sleepEpoch sequence) with ⟨error, refused⟩ | ⟨_, accepted⟩
        · rw [refused]
          exact ends_throw fun _ failed => by cases failed
        · rw [accepted]
          refine ends_set_bind ?_
          rintro waiting ended
          cases ended
          exact ⟨lock, rfl, rfl, rfl⟩

theorem configureInk_spec (key : Int) (generation epoch : Nat) (enabled : Bool) (region : Option Rect) :
    AllOrNothing s (configureInk key generation epoch enabled region) s fun waiting t =>
      s.lock = none ∧ ∃ foreground, s.foreground = some foreground ∧ waiting = .inkPolicy foreground.panelLease enabled ∧
      t = { s.sent (.configureInk foreground.panelLease enabled region) with
            foreground := some { foreground with inkEnabled := enabled } } := by
  unfold configureInk
  apply allOrNothing_get_bind
  refine allOrNothing_failIf fun unlocked => ?_
  cases shows : s.foreground with
  | none => exact allOrNothing_throw _
  | some foreground =>
    refine allOrNothing_failIf fun same => enqueuePanel_rule rfl ?_
    exact ⟨unlocked_of_passed unlocked, foreground, rfl, rfl, rfl⟩

/-- The wait for an ink policy is no wait for a cancellation. -/
theorem configureInk_begins (cancelled : Nat) (key : Int) (generation epoch : Nat) (enabled : Bool) (region : Option Rect) :
    Operated cancelled s ((some <$> configureInk key generation epoch enabled region).run s).2 ∧
    Ends (some <$> configureInk key generation epoch enabled region) s fun result t => ∀ sleepEpoch,
      result = .ok (some (.lockCancellation sleepEpoch)) → ∃ lock, t.lock = some lock ∧ lock.sleepEpoch = sleepEpoch := by
  unfold Ends
  rw [map_eq_pure_bind, run_bind]
  rcases (configureInk_spec (s := s) key generation epoch enabled region).cases with
    ⟨error, failed⟩ | ⟨waiting, after, ended, unlocked, foreground, shows, rfl, rfl⟩
  · rw [failed]
    exact ⟨.idle, fun _ same => by cases same⟩
  · rw [ended]
    exact ⟨.inked foreground enabled region unlocked shows, fun _ same => by cases same⟩

/-! ## Registration -/

/-- A registration fails and leaves only the candidate names used up, or the surface
    is new and the panel will hear of it. -/
theorem register_spec (shm : Nat → SharedSurface) (key width height : Int) (format : PixelFormat) (creation : Creation) :
    Ends (register shm key width height format creation) s fun result t =>
      (∃ error next, result = .error error ∧ t = { s with nextShmKey := next }) ∨
      ∃ shmKey surface next, s.surfaces key = none ∧ result = .ok (shmKey, surface) ∧
        t = { (s.insertSurface key shmKey).sent (.registerSurface key shmKey) with nextShmKey := next } := by
  unfold register
  apply ends_get_bind
  cases vacant : s.surfaces key with
  | some entry =>
    simp only
    cases validateSurface (shm entry.shmKey) width height format with
    | error error => exact .inl ⟨error, s.nextShmKey, rfl, rfl⟩
    | ok _ => exact .inl ⟨_, s.nextShmKey, rfl, rfl⟩
  | none =>
    apply ends_bind
    unfold createSurface
    apply ends_get_bind
    apply ends_set_bind
    cases SharedSurface.create key width height format creation.refused with
    | error error => exact .inl ⟨error, _, rfl, rfl⟩
    | ok surface =>
      refine ends_pure (ends_modify_bind (ends_get_bind ?_))
      generalize candidate : max ((s.nextShmKey + creation.skipped) % 2147483648) 1 = shmKey
      simp only [insertSurface]
      rcases trySend_spec s.panel (.registerSurface key shmKey) with ⟨error, refused⟩ | ⟨_, accepted⟩
      · simp only [refused]
        refine ends_set_bind (ends_throw (.inl ⟨error, s.nextShmKey + creation.skipped + 1, rfl, ?_⟩))
        have restored : Function.update (Function.update s.surfaces key (some ⟨shmKey, []⟩)) key none = s.surfaces := by
          rw [Function.update_idem, ← vacant, Function.update_eq_self]
        simp only [removeSurface, restored]
      · simp only [accepted]
        exact ends_set_bind (ends_pure (.inr ⟨shmKey, surface, _, trivial, rfl, rfl⟩))

theorem activateClient_spec (key : Int) (client : Nat) :
    AllOrNothing s (activateClient key client) s fun _ t => ∃ entry, s.surfaces key = some entry ∧ entry.clients = [] ∧
      t = { s with surfaces := Function.update s.surfaces key (some { entry with clients := [client] }) } := by
  unfold activateClient
  apply allOrNothing_get_bind
  cases registered : s.surfaces key with
  | none => exact allOrNothing_throw _
  | some entry =>
    refine allOrNothing_failIf fun owned => ?_
    exact ⟨entry, rfl, by simpa using owned, rfl⟩

theorem dropPanelSurface_spec (key : Int) :
    s.dropPanelSurface key = s.failClosed ∨ s.dropPanelSurface key = s.sent (.dropSurface key) := by
  unfold dropPanelSurface
  rcases trySend_spec s.panel (.dropSurface key) with ⟨error, refused⟩ | ⟨_, accepted⟩
  · exact .inl (by rw [refused])
  · exact .inr (by rw [accepted]; rfl)

theorem abortRegistration_spec (key : Int) :
    s.abortRegistration key = s ∨ ∃ entry, s.surfaces key = some entry ∧ entry.clients = [] ∧
      (s.abortRegistration key = (s.removeSurface key).failClosed ∨
        s.abortRegistration key = (s.removeSurface key).sent (.dropSurface key)) := by
  unfold abortRegistration
  cases registered : s.surfaces key with
  | none => exact .inl (by simp)
  | some entry =>
    by_cases unowned : entry.clients = []
    · refine .inr ⟨entry, rfl, unowned, ?_⟩
      simp only [Option.any_some, unowned, decide_true, if_true]
      exact dropPanelSurface_spec key
    · exact .inl (by simp [unowned])

/-- The state after a surface has left, before the foreground follows it. -/
def departed (s : HostState) (key : Int) (told : Bool) : HostState :=
  { if told then (s.removeSurface key).sent (.dropSurface key) else (s.removeSurface key).failClosed with
    preparedForeground := s.preparedForeground.filter fun prepared => prepared.key ≠ key }

theorem departed_requested (key : Int) (told : Bool) : (s.departed key told).requested = s.requested := by
  unfold departed
  cases told <;> rfl

/-- A connection that leaves takes its surface along, and the foreground with it:
    the contacts are fenced before the panel is told and once more after. -/
inductive Departs (s : HostState) (client : Nat) (key : Int) : HostState → Prop
  | absent (unregistered : s.surfaces key = none) : Departs s client key s
  | shared (entry : SurfaceEntry) (clients : List Nat) (registered : s.surfaces key = some entry)
      (others : clients ≠ []) (kept : clients = entry.clients.filter fun candidate => candidate ≠ client) :
      Departs s client key { s with surfaces := Function.update s.surfaces key (some { entry with clients := clients }) }
  | hidden (entry : SurfaceEntry) (told : Bool) (registered : s.surfaces key = some entry)
      (last : (entry.clients.filter fun candidate => candidate ≠ client) = []) (stays : s.leaseToClear key = none) :
      Departs s client key (s.departed key told)
  | stuck (entry : SurfaceEntry) (told : Bool) (lease : PanelLease) (registered : s.surfaces key = some entry)
      (last : (entry.clients.filter fun candidate => candidate ≠ client) = [])
      (clears : s.leaseToClear key = some lease) :
      Departs s client key (s.departed key told).fenceInputContacts.failClosed
  | cleared (entry : SurfaceEntry) (told : Bool) (lease : PanelLease) (registered : s.surfaces key = some entry)
      (last : (entry.clients.filter fun candidate => candidate ≠ client) = [])
      (clears : s.leaseToClear key = some lease) :
      Departs s client key
        { ((s.departed key told).fenceInputContacts.sent (.clearForeground lease)).fenceInputContacts with
          foreground := none }

theorem leaseToClear_spec {key : Int} (clears : s.leaseToClear key = some lease) :
    s.requested = some lease ∧ lease.key = key ∧ ∀ lock ∈ s.lock, lock.foreground.key ≠ key := by
  obtain ⟨requests, matching⟩ := Option.filter_eq_some_iff.mp clears
  simp only [decide_eq_true_eq] at matching
  refine ⟨requests, matching.1, fun lock held same => matching.2 ?_⟩
  rw [Option.mem_def.mp held]
  simp [same]

theorem unregister_departs (client : Nat) (key : Int) : Departs s client key (s.unregister client key) := by
  unfold unregister
  cases registered : s.surfaces key with
  | none => exact .absent registered
  | some entry =>
    simp only
    by_cases others : (entry.clients.filter fun candidate => candidate ≠ client) = []
    · simp only [others, ne_eq, not_true_eq_false, if_false]
      obtain ⟨told, dropped⟩ : ∃ told, { (s.removeSurface key).dropPanelSurface key with
          preparedForeground := ((s.removeSurface key).dropPanelSurface key).preparedForeground.filter
            fun prepared => prepared.key ≠ key } = s.departed key told := by
        rcases dropPanelSurface_spec (s := s.removeSurface key) key with refused | told
        · exact ⟨false, by rw [refused]; rfl⟩
        · exact ⟨true, by rw [told]; rfl⟩
      simp only [ne_eq] at dropped
      rw [dropped]
      cases clears : s.leaseToClear key with
      | none => exact .hidden entry told registered others clears
      | some lease =>
        have requests := (leaseToClear_spec clears).1
        obtain ⟨_, _, unmoved⟩ := fence_unmoved (s.departed key told)
        have still : (s.departed key told).fenceInputContacts.requested = some lease :=
          unmoved.requested.trans ((departed_requested key told).trans requests)
        unfold clearDeparted
        have spec : AllOrNothing (s.departed key told).fenceInputContacts (clearForegroundLocked lease)
            (s.departed key told).fenceInputContacts fun _ t => t = _ :=
          clearForegroundLocked_rule (fun other => absurd still other) fun _ => rfl
        rcases spec.cases with ⟨error, failed⟩ | ⟨result, after, ended, done⟩
        · simp only [failed]
          exact .stuck entry told lease registered others clears
        · simp only [ended, done]
          exact .cleared entry told lease registered others clears
    · simp only [others, ne_eq, not_false_eq_true, if_true]
      exact .shared entry _ registered others rfl

/-! ## Input -/

/-- Suppression forgets what it has seen the end of. -/
theorem suppressFencedContact_frame (frame : InputFrame) :
    ∃ touches pen, (s.suppressFencedContact frame).2 = { s with suppressedTouches := touches, suppressedPen := pen } := by
  unfold suppressFencedContact
  cases frame with
  | touch touch =>
    simp only
    by_cases suppressed : touch.deviceId ∈ s.suppressedTouches
    · simp only [suppressed, if_true]
      cases touch.phase <;> exact ⟨_, _, rfl⟩
    · simp only [suppressed, if_false]
      exact ⟨_, _, rfl⟩
  | pen pen =>
    simp only
    by_cases suppressed : s.suppressedPen = true
    · simp only [suppressed, if_true]
      cases pen.phase <;> exact ⟨_, _, rfl⟩
    · simp only [suppressed, Bool.false_eq_true, if_false]
      exact ⟨_, _, rfl⟩

theorem routeForegroundTouch_frame (captured : CapturedInput) :
    ∃ touches contacts, (s.routeForegroundTouch captured).2 =
      { s with activeTouches := touches, contacts := contacts } := by
  unfold routeForegroundTouch
  cases captured.frame with
  | pen pen => exact ⟨_, _, rfl⟩
  | touch touch =>
    simp only
    cases touch.phase <;> exact ⟨_, _, rfl⟩

/-- Tracking the pen sends at most the end of the contact that a new one replaces. -/
theorem trackPenContact_frame (captured : CapturedInput) (lease : PanelLease) :
    ∃ surfaces queues backpressure commands active contacts, Pruned s.surfaces surfaces ∧ OnlyPen commands ∧
      (s.trackPenContact captured lease).2 = { s with
        surfaces := surfaces
        queues := queues
        inputBackpressure := backpressure
        panel := { s.panel with commands := s.panel.commands ++ commands }
        activePen := active
        contacts := contacts } := by
  have nothing : ∀ active contacts, ({ s with activePen := active, contacts := contacts } : HostState) = { s with
      panel := { s.panel with commands := s.panel.commands ++ [] }, activePen := active, contacts := contacts } := by
    intro active contacts
    rw [List.append_nil]
  have idle : ∀ active contacts, ∃ surfaces queues backpressure commands active' contacts',
      Pruned s.surfaces surfaces ∧ OnlyPen commands ∧
      ({ s with activePen := active, contacts := contacts } : HostState) = { s with
        surfaces := surfaces
        queues := queues
        inputBackpressure := backpressure
        panel := { s.panel with commands := s.panel.commands ++ commands }
        activePen := active'
        contacts := contacts' } := fun active contacts =>
    ⟨s.surfaces, s.queues, s.inputBackpressure, [], active, contacts, .refl _, by simp [OnlyPen], nothing active contacts⟩
  unfold trackPenContact
  cases captured.frame with
  | touch touch => exact idle s.activePen s.contacts
  | pen pen =>
    simp only
    cases pen.phase with
    | down =>
      simp only [route]
      cases active : s.activePen with
      | none => exact idle (some (lease, pen)) _
      | some previous =>
        obtain ⟨previousLease, previous⟩ := previous
        obtain ⟨surfaces, queues, backpressure, pruned, same⟩ :=
          sendToKey_frame { s with activePen := none } previousLease.key ⟨penPacket previous.cancelled, s.contacts .pen⟩
        simp only [same]
        rcases offerPanel_spec (s := { s with
          activePen := none, surfaces := surfaces, queues := queues, inputBackpressure := backpressure })
          (.pen previousLease previous.cancelled) with refused | accepted
        · refine ⟨surfaces, queues, backpressure, [], some (lease, pen), Function.update s.contacts .pen captured.contact,
            pruned, by simp [OnlyPen], ?_⟩
          rw [refused, List.append_nil]
        · refine ⟨surfaces, queues, backpressure, [.pen previousLease previous.cancelled], some (lease, pen),
            Function.update s.contacts .pen captured.contact, pruned, by simp [OnlyPen], ?_⟩
          rw [accepted]
          rfl
    | move =>
      cases active : s.activePen with
      | none => exact idle s.activePen s.contacts
      | some contact =>
        obtain ⟨owner, last⟩ := contact
        by_cases other : owner ≠ lease
        · simp only [other, ne_eq, not_false_eq_true, if_true]
          exact idle s.activePen s.contacts
        · simp only [other, if_false]
          exact idle (some (owner, pen)) s.contacts
    | up => exact idle none s.contacts
    | cancel => exact idle none s.contacts

theorem inputPacketFor_frame (lease : PanelLease) (frame : InputFrame) :
    ∃ commands, OnlyPen commands ∧ (s.inputPacketFor lease frame).2 =
      { s with panel := { s.panel with commands := s.panel.commands ++ commands } } := by
  unfold inputPacketFor
  cases frame with
  | touch touch => exact ⟨[], by simp [OnlyPen], by simp⟩
  | pen pen =>
    rcases offerPanel_spec (s := s) (.pen lease pen) with refused | accepted
    · exact ⟨[], by simp [OnlyPen], by simp [refused]⟩
    · exact ⟨[.pen lease pen], by simp [OnlyPen], by simp [accepted, sent]⟩

theorem deliverInput_state (key : Int) (delivery : Delivery) :
    (s.deliverInput key delivery).2 = (s.sendToKey key delivery).2 := by
  unfold deliverInput
  rcases s.sendToKey key delivery with ⟨delivered, t⟩
  cases delivered <;> rfl

theorem sendToKey_unmoved (key : Int) (delivery : Delivery) : Unmoved s (s.sendToKey key delivery).2 [] := by
  obtain ⟨surfaces, queues, backpressure, _, same⟩ := sendToKey_frame s key delivery
  rw [same]
  exact ⟨rfl, rfl, rfl, rfl, rfl, (List.append_nil _).symm⟩

theorem onlyPen_append {first second : List PanelCommand} (left : OnlyPen first) (right : OnlyPen second) :
    OnlyPen (first ++ second) := fun command member => (List.mem_append.mp member).elim (left command) (right command)

/-- Whatever becomes of a frame, only pen frames reach the panel, and surfaces lose
    only clients. -/
theorem dispatch_frame (committed : Option PanelLease) (captured : CapturedInput) :
    ∃ commands, OnlyPen commands ∧ Unmoved s (s.dispatchCapturedInput committed captured).2 commands ∧
      Pruned s.surfaces (s.dispatchCapturedInput committed captured).2.surfaces := by
  have quiet : ∀ {t : HostState}, Unmoved s t [] → Pruned s.surfaces t.surfaces →
      ∃ commands, OnlyPen commands ∧ Unmoved s t commands ∧ Pruned s.surfaces t.surfaces :=
    fun unmoved pruned => ⟨[], by simp [OnlyPen], unmoved, pruned⟩
  unfold dispatchCapturedInput
  by_cases stale : captured.epoch ≠ s.inputEpoch
  · simp only [stale, ne_eq, not_false_eq_true, if_true]
    exact quiet (.refl s) (.refl _)
  simp only [stale, if_false]
  obtain ⟨touches, pen, suppression⟩ := suppressFencedContact_frame (s := s) captured.frame
  rcases suppressed : s.suppressFencedContact captured.frame with ⟨fenced, t⟩
  rw [suppressed] at suppression
  simp only at suppression
  have seen : Unmoved s t [] ∧ Pruned s.surfaces t.surfaces := by
    rw [suppression]
    exact ⟨⟨rfl, rfl, rfl, rfl, rfl, (List.append_nil _).symm⟩, .refl _⟩
  cases fenced with
  | true => exact quiet seen.1 seen.2
  | false =>
    simp only
    split
    · exact quiet seen.1 seen.2
    split
    · exact quiet seen.1 seen.2
    cases committed with
    | none => exact quiet seen.1 seen.2
    | some lease =>
      simp only
      split
      · exact quiet seen.1 seen.2
      obtain ⟨active, contacts, routing⟩ := routeForegroundTouch_frame (s := t) captured
      rcases routed : t.routeForegroundTouch captured with ⟨touched, u⟩
      rw [routed] at routing
      simp only at routing
      have touched' : Unmoved s u [] ∧ Pruned s.surfaces u.surfaces := by
        rw [routing, suppression]
        exact ⟨⟨rfl, rfl, rfl, rfl, rfl, (List.append_nil _).symm⟩, .refl _⟩
      cases touched with
      | false => exact quiet touched'.1 touched'.2
      | true =>
        simp only
        obtain ⟨surfaces, queues, backpressure, commands, activePen, numbers, pruned, pens, tracking⟩ :=
          trackPenContact_frame (s := u) captured lease
        rcases tracked : u.trackPenContact captured lease with ⟨valid, v⟩
        rw [tracked] at tracking
        simp only at tracking
        have valid' : Unmoved s v commands ∧ Pruned s.surfaces v.surfaces := by
          refine ⟨touched'.1.trans ?_, touched'.2.trans ?_⟩
          · rw [tracking]
            exact ⟨rfl, rfl, rfl, rfl, rfl, rfl⟩
          · rw [tracking]
            exact pruned
        cases valid with
        | false => exact ⟨commands, pens, valid'⟩
        | true =>
          simp only
          obtain ⟨more, pens', packing⟩ := inputPacketFor_frame (s := v) lease captured.frame
          rcases packed : v.inputPacketFor lease captured.frame with ⟨packet, w⟩
          rw [packed] at packing
          simp only at packing
          simp only [deliverInput_state]
          have sent : Unmoved v w more ∧ Pruned v.surfaces w.surfaces := by
            rw [packing]
            exact ⟨⟨rfl, rfl, rfl, rfl, rfl, rfl⟩, .refl _⟩
          obtain ⟨_, _, _, delivered, same⟩ := sendToKey_frame w lease.key ⟨packet, captured.contact⟩
          refine ⟨commands ++ (more ++ []), onlyPen_append pens (onlyPen_append pens' (by simp [OnlyPen])),
            valid'.1.trans (sent.1.trans (sendToKey_unmoved lease.key ⟨packet, captured.contact⟩)), ?_⟩
          rw [same]
          exact valid'.2.trans (sent.2.trans delivered)

end HostState
end Remagic.Display
