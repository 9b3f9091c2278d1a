import Mathlib.Data.List.Induction
import Remagic.LeaseOrder
import Remagic.PanelRecords

/-!
# What the host's telemetry tells, in every run

What each event does with the worker, said once. The telemetry's commitments are then
the worker's own in every run, a record of a switch or of an unlock comes from the
command that was carried out, and a lock shows the whole frame that it was taken from.
-/

namespace Remagic.Display
open PanelRuntime PanelTelemetry

namespace DisplayHost
variable {s t : DisplayHost} {event : HostEvent} {p : PanelRuntime}

/-! ## What an event does with the worker -/

/-- The worker after an event: left alone, asked to defer damage, or a step further. -/
inductive Works (s : DisplayHost) : HostEvent → DisplayHost → Prop
  | alone {event : HostEvent} {t : DisplayHost} (worker : t.worker = s.worker)
      (running : t.running = true → s.running = true) : Works s event t
  | deferred {event : HostEvent} {t : DisplayHost} (lease : PanelLease) (rect : Rect) (intent : RefreshIntent)
      (worker : t.worker = { s.worker with telemetry := s.worker.telemetry.deferDamage lease rect intent })
      (running : t.running = true → s.running = true) : Works s event t
  | handled {now : Int} {marker : Option Nat} {t : DisplayHost} (command : PanelCommand) (rest : List PanelCommand)
      (runs : s.running = true) (queue : s.host.panel.commands = command :: rest)
      (worker : t.worker = (s.worker.handle (s.env now marker) command).2)
      (stale : t.running = true → ∀ error, (s.worker.handle (s.env now marker) command).1 = .error error →
        isStaleControlError error = true) : Works s (.work now marker) t
  | undeferred {now : Int} {marker : Option Nat} {t : DisplayHost} (runs : s.running = true)
      (worker : t.worker = (s.worker.flushDeferredDamage (s.env now marker)).2) : Works s (.flushDeferred now marker) t
  | settled {now : Int} {marker : Option Nat} {t : DisplayHost} (runs : s.running = true)
      (worker : t.worker = (s.worker.flushDeadlines (s.env now marker)).2) : Works s (.flushDeadlines now marker) t

/-- The worker and its being there are as they were. -/
def Apart (s t : DisplayHost) : Prop := t.worker = s.worker ∧ t.running = s.running

theorem Apart.works (apart : Apart s t) : Works s event t := .alone apart.1 fun runs => apart.2 ▸ runs

theorem exclusively_apart {step : DisplayHost → DisplayHost} (free : Apart s (step s)) :
    Apart s (s.exclusively step) := by
  unfold exclusively
  split
  · exact ⟨rfl, rfl⟩
  · exact free

theorem withKey_apart {client : Nat} {step : DisplayHost → Int → DisplayHost} (keyed : ∀ key, Apart s (step s key)) :
    Apart s (s.withKey client step) := by
  unfold withKey
  split
  · exact ⟨rfl, rfl⟩
  · exact keyed _

theorem perform_apart {α : Type} (operation : Hosted α) : Apart s (s.perform operation).2 := ⟨rfl, rfl⟩

theorem begin_apart (operation : Hosted (Option HostState.Waiting)) : Apart s (s.begin operation) := by
  unfold begin perform
  rcases operation.run s.host with ⟨_ | _, host⟩ <;> exact ⟨rfl, rfl⟩

theorem register_apart (client : Nat) (key width height : Int) (format : PixelFormat) (creation : Creation) :
    Apart s (s.register client key width height format creation) := by
  unfold register perform
  split
  · exact ⟨rfl, rfl⟩
  rcases (HostState.register s.shm key width height format creation).run s.host with ⟨_ | _, host⟩ <;> exact ⟨rfl, rfl⟩

theorem activateClient_apart (client : Nat) : Apart s (s.activateClient client) := by
  unfold activateClient perform
  split
  · rename_i key _
    rcases (HostState.activateClient key client).run s.host with ⟨_ | _, host⟩ <;> exact ⟨rfl, rfl⟩
  · exact ⟨rfl, rfl⟩

theorem updateSurface_apart (key : Int) (edit : SharedSurface → SharedSurface) : Apart s (s.updateSurface key edit) := by
  unfold updateSurface
  split <;> exact ⟨rfl, rfl⟩

theorem damage_works (key : Int) (rect : Option Rect) : Works s event (s.damage key rect) := by
  unfold damage perform
  split
  · exact .alone rfl id
  dsimp only
  generalize ExceptT.run (HostState.damage _ _ _) s.host = outcome
  rcases outcome with ⟨error | (_ | lease), host⟩
  · exact .alone rfl id
  · exact .alone rfl id
  · exact .deferred lease _ _ rfl id

theorem work_works (runs : s.running = true) (now : Int) (marker : Option Nat) :
    Works s (.work now marker) (s.work now marker) := by
  unfold work
  cases queue : s.host.panel.commands with
  | nil => exact .alone rfl id
  | cons command rest =>
    dsimp only
    split
    · exact .alone rfl fun stopped => by cases stopped
    rcases handled : s.worker.handle (s.env now marker) command with ⟨result, worker⟩
    cases result with
    | ok _ => exact .handled command rest runs queue (by rw [handled]) (by simp [handled])
    | error error =>
      dsimp only
      split
      · rename_i stale
        refine .handled command rest runs queue (by rw [handled]) ?_
        intro _ other same
        rw [handled] at same
        cases same
        exact stale
      · exact .handled command rest runs queue (by rw [handled]; rfl) fun stopped => by cases stopped

theorem flush_worker (outcome : Outcome) : (s.flush outcome).worker = outcome.2 := by
  rcases outcome with ⟨_ | _, worker⟩ <;> rfl

/-- The worker's part of every event. -/
theorem next_works (s : DisplayHost) (event : HostEvent) : Works s event (s.next event) := by
  cases event with
  | connect => exact .alone rfl id
  | register client key width height format creation => exact (register_apart client key width height format creation).works
  | activateClient client => exact (activateClient_apart client).works
  | replyFailed client =>
    simp only [next, replyFailed]
    split <;> exact .alone rfl id
  | draw shmKey bytes => exact .alone rfl id
  | markCommit client =>
    simp only [next]
    exact (withKey_apart fun key => updateSurface_apart key _).works
  | damage client rect =>
    simp only [next, withKey, exclusively]
    split
    · exact .alone rfl id
    split
    · exact .alone rfl id
    · exact damage_works _ rect
  | setRefreshMode client mode =>
    simp only [next]
    exact (withKey_apart fun key => updateSurface_apart key _).works
  | requestSurfaceFullRefresh client =>
    simp only [next]
    exact (withKey_apart fun key => exclusively_apart (perform_apart _)).works
  | disconnect client =>
    simp only [next, disconnect]
    split
    · exact .alone rfl id
    · exact (exclusively_apart ⟨rfl, rfl⟩).works
    · exact .alone rfl id
  | receive client => exact .alone rfl id
  | setForeground key generation epoch fullRefresh =>
    simp only [next]
    exact (exclusively_apart (perform_apart _)).works
  | prepareForeground key generation epoch =>
    simp only [next]
    exact (exclusively_apart (perform_apart _)).works
  | activateForeground key generation epoch inkEnabled fullRefresh =>
    simp only [next]
    exact (exclusively_apart (perform_apart _)).works
  | clearForeground =>
    simp only [next]
    exact (exclusively_apart (perform_apart _)).works
  | configureInk key generation epoch enabled region =>
    simp only [next]
    exact (exclusively_apart (begin_apart _)).works
  | requestFullRefresh =>
    simp only [next]
    exact (exclusively_apart (perform_apart _)).works
  | showLock key generation epoch sleepEpoch =>
    simp only [next]
    exact (exclusively_apart (perform_apart _)).works
  | refreshLock sleepEpoch =>
    simp only [next]
    exact (exclusively_apart (perform_apart _)).works
  | cancelLock sleepEpoch sequence =>
    simp only [next]
    exact (exclusively_apart (begin_apart _)).works
  | acknowledged =>
    simp only [next, acknowledged]
    split
    · split <;> exact .alone rfl id
    · split <;> exact .alone rfl id
    · exact .alone rfl id
  | timedOut => exact .alone rfl id
  | inject epoch frame =>
    simp only [next]
    exact (exclusively_apart ⟨rfl, rfl⟩).works
  | shutdown => exact .alone rfl id
  | capture frame =>
    simp only [next, capture]
    split <;> exact .alone rfl id
  | dispatchPen =>
    simp only [next]
    refine (exclusively_apart ?_).works
    unfold dispatchPen
    split <;> exact ⟨rfl, rfl⟩
  | dispatchTouch =>
    simp only [next]
    refine (exclusively_apart ?_).works
    unfold dispatchTouch
    split <;> exact ⟨rfl, rfl⟩
  | work now marker =>
    simp only [next, whileRunning]
    split
    · rename_i runs
      exact work_works runs now marker
    · exact .alone rfl id
  | flushDeferred now marker =>
    simp only [next, whileRunning]
    split
    · rename_i runs
      exact .undeferred runs (flush_worker _)
    · exact .alone rfl id
  | flushDeadlines now marker =>
    simp only [next, whileRunning]
    split
    · rename_i runs
      exact .settled runs (flush_worker _)
    · exact .alone rfl id

/-! ## Commitments -/

/-- The telemetry tells of the worker as it is; of its ink as long as it runs. -/
structure Reported (s : DisplayHost) : Prop where
  announced : s.worker.Announced
  ink : s.running = true → s.worker.InkTold ∧ s.worker.InkHeld

theorem start_reported (shm : Nat → SharedSurface) (backend : PanelBackend) : (start shm backend).Reported :=
  ⟨new_announced backend, fun _ => ⟨new_inkTold backend, by simp [start, new, InkHeld, default]⟩⟩

/-- At most one picture was submitted: the leases, the ink and the lock are as they were. -/
structure Pictures (may : SubmissionRecord → Prop) (p q : PanelRuntime) : Prop where
  foreground : q.foreground = p.foreground
  lock : q.lock = p.lock
  ink : q.ink = p.ink
  settling : q.settleDeadline.isSome = true → p.settleDeadline.isSome = true
  reports : Reports may p.telemetry q.telemetry

theorem flushDeferredDamage_pictures (env : PanelEnv) :
    Pictures (fun record => record.reason = .surfaceDamage) p (p.flushDeferredDamage env).2 := by
  rcases flushDeferredDamage_spec env (p := p) with same | ⟨lease, damage, _, _, same⟩
  · rw [same]
    exact ⟨rfl, rfl, rfl, id, .refl _ _⟩
  · rw [same]
    generalize undeferred : { p with telemetry := p.telemetry.discardDeferredDamage lease } = q
    obtain ⟨dirty, view⟩ := handleDamage_view env (p := q) lease damage.rect damage.intent
    have damaged : Reports (fun record => record.reason = .surfaceDamage) q.telemetry
        (q.handleDamage env lease damage.rect damage.intent).2.telemetry :=
      (handleDamage_reports env lease damage.rect damage.intent).2.weaken fun record made => made.2.1
    subst undeferred
    exact ⟨view.foreground, view.lock, view.ink, fun settling => view.settleDeadline ▸ settling,
      damaged.submits.congr rfl rfl, damaged.committedForeground, damaged.committedInk, damaged.committedLockEpoch⟩

theorem syncSurfaceBuffer_telemetry (env : PanelEnv) (lease : PanelLease) (rect : Rect) :
    (p.syncSurfaceBuffer env lease rect).telemetry = p.telemetry := by
  unfold syncSurfaceBuffer
  split
  · rfl
  split
  · rfl
  dsimp only
  split <;> rfl

theorem settle_telemetry (env : PanelEnv) : (p.settle env).telemetry = p.telemetry := by
  unfold settle
  split
  · rfl
  dsimp only
  split
  · rfl
  split
  · exact syncSurfaceBuffer_telemetry env _ _
  · rfl

theorem flushDeadlines_pictures (env : PanelEnv) :
    Pictures (fun record => record.reason = .liveInk) p (p.flushDeadlines env).2 := by
  obtain ⟨dirty, deadline, started, view, settling⟩ := flushDeadlines_view env (p := p)
  have reports : Reports (fun record => record.reason = .liveInk) p.telemetry (p.flushLive env false).2.telemetry :=
    (flushLive_reports env false).weaken fun record made => made.2.1
  refine ⟨view.foreground, view.lock, view.ink, ?_, ?_⟩
  · rw [view.settleDeadline, Option.isSome_iff_ne_none, Option.isSome_iff_ne_none]
    exact settling
  unfold flushDeadlines Outcome.andThen
  rcases flushed : p.flushLive env false with ⟨result, q⟩
  rw [flushed] at reports
  cases result with
  | error error => exact reports
  | ok _ =>
    dsimp only
    rw [settle_telemetry]
    exact reports

theorem Pictures.reported {may : SubmissionRecord → Prop} (pictures : Pictures may s.worker t.worker)
    (reported : s.Reported) (runs : s.running = true) : t.Reported := by
  obtain ⟨told, held⟩ := reported.ink runs
  refine ⟨⟨?_, ?_⟩, fun _ => ⟨told.same pictures.ink pictures.reports.committedInk,
    held.of_view pictures.ink pictures.foreground pictures.settling⟩⟩
  · rw [pictures.reports.committedForeground, pictures.foreground, reported.announced.foreground]
  · rw [pictures.reports.committedLockEpoch, pictures.lock, reported.announced.lock]

theorem Works.reported (works : Works s event t) (reported : s.Reported) : t.Reported := by
  cases works with
  | alone worker running =>
    constructor
    · rw [worker]
      exact reported.announced
    · rw [worker]
      exact fun runs => reported.ink (running runs)
  | deferred lease rect intent worker running =>
    constructor
    · rw [worker]
      exact ⟨reported.announced.foreground, reported.announced.lock⟩
    · rw [worker]
      exact fun runs => ⟨(reported.ink (running runs)).1.same rfl rfl, (reported.ink (running runs)).2⟩
  | handled command rest runs queue worker stale =>
    obtain ⟨told, held⟩ := reported.ink runs
    constructor
    · rw [worker]
      exact handle_announced _ command reported.announced
    · intro still
      rw [worker]
      exact ⟨handle_inkTold _ command told held (stale still), (handle_keeps _ command held).1⟩
  | undeferred runs worker => exact Pictures.reported (worker ▸ flushDeferredDamage_pictures _) reported runs
  | settled runs worker => exact Pictures.reported (worker ▸ flushDeadlines_pictures _) reported runs

/-! ## The history -/

/-- The submissions are numbered in the order in which they were made. -/
def Numbered (s : DisplayHost) : Prop :=
  (∀ record ∈ s.worker.telemetry.recentSubmissions, record.sequence ≤ s.worker.telemetry.nextSubmissionSequence) ∧
  (s.worker.telemetry.recentSubmissions.getLast?.map SubmissionRecord.sequence).getD 0 =
    s.worker.telemetry.nextSubmissionSequence

/-- The record comes from this event, which had the worker carry out the record's command. -/
def MadeBy (s : DisplayHost) (event : HostEvent) (record : SubmissionRecord) : Prop :=
  record.reason = .liveInk ∨ record.reason = .surfaceDamage ∨
  ∃ now marker command rest, event = .work now marker ∧ s.running = true ∧ s.host.panel.commands = command :: rest ∧
    (s.next event).worker = (s.worker.handle (s.env now marker) command).2 ∧
    command.Submitted (s.env now marker) s.worker record

theorem next_submits (s : DisplayHost) (event : HostEvent) :
    Submits (s.MadeBy event) s.worker.telemetry (s.next event).worker.telemetry := by
  have works := next_works s event
  generalize after : s.next event = t at works ⊢
  cases works with
  | alone worker running =>
    rw [worker]
    exact .refl _ _
  | deferred lease rect intent worker running =>
    rw [worker]
    exact .inl rfl
  | handled command rest runs queue worker stale =>
    rw [worker]
    refine (handle_submits _ command).weaken ?_
    intro record submitted
    exact .inr (.inr ⟨_, _, command, rest, rfl, runs, queue, after ▸ worker, submitted⟩)
  | undeferred runs worker =>
    rw [worker]
    exact (flushDeferredDamage_pictures _).reports.submits.weaken fun record made => .inr (.inl made)
  | settled runs worker =>
    rw [worker]
    exact (flushDeadlines_pictures _).reports.submits.weaken fun record made => .inl made

theorem start_numbered (shm : Nat → SharedSurface) (backend : PanelBackend) : (start shm backend).Numbered :=
  ⟨by simp [start, new, default], rfl⟩

theorem next_numbered (s : DisplayHost) (event : HostEvent) (numbered : s.Numbered) : (s.next event).Numbered := by
  rcases next_submits s event with same | ⟨made, _, recorded⟩
  · obtain ⟨recent, last⟩ := Prod.mk.inj same
    unfold Numbered
    rw [recent, last]
    exact numbered
  · obtain ⟨recent, last⟩ := Prod.mk.inj recorded
    unfold Numbered
    rw [recent, last]
    simp only [recordSubmission]
    refine ⟨?_, by simp⟩
    intro record member
    rcases List.mem_append.mp member with old | new
    · have kept : record ∈ s.worker.telemetry.recentSubmissions := by
        split at old
        · exact List.mem_of_mem_drop old
        · exact old
      exact Nat.le_succ_of_le (numbered.1 record kept)
    · rw [List.mem_singleton.mp new]

/-- A record that is new after a run was made by one of the run's events. -/
theorem record_made {record : SubmissionRecord} (events : List HostEvent)
    (member : record ∈ (events.foldl next s).worker.telemetry.recentSubmissions) :
    record ∈ s.worker.telemetry.recentSubmissions ∨
    ∃ before event, before ++ [event] <+: events ∧ (before.foldl next s).MadeBy event record := by
  induction events using List.reverseRecOn with
  | nil => exact .inl member
  | append_singleton events event ih =>
    have earlier : record ∈ (events.foldl next s).worker.telemetry.recentSubmissions →
        record ∈ s.worker.telemetry.recentSubmissions ∨
        ∃ before made, before ++ [made] <+: events ++ [event] ∧ (before.foldl next s).MadeBy made record := by
      intro member
      refine (ih member).imp_right ?_
      rintro ⟨before, made, within, origin⟩
      exact ⟨before, made, within.trans (List.prefix_append events [event]), origin⟩
    rw [List.foldl_append, List.foldl_cons, List.foldl_nil] at member
    rcases next_submits (events.foldl next s) event with same | ⟨made, origin, recorded⟩
    · rw [(Prod.mk.inj same).1] at member
      exact earlier member
    · rw [(Prod.mk.inj recorded).1] at member
      rcases List.mem_append.mp member with old | new
      · refine earlier ?_
        split at old
        · exact List.mem_of_mem_drop old
        · exact old
      · refine .inr ⟨events, event, List.prefix_rfl, ?_⟩
        rw [List.mem_singleton.mp new]
        refine origin.imp_right (Or.imp_right ?_)
        rintro ⟨now, marker, command, rest, rfl, runs, queue, worker, submitted⟩
        exact ⟨now, marker, command, rest, rfl, runs, queue, worker,
          ⟨submitted.reason, submitted.success, submitted.pictured, submitted.succeeded⟩⟩

/-! ## What an accepted record says -/

/-- The event copied the whole surface of the lease, as it was committed, into the framebuffer. -/
def CopiedWhole (s : DisplayHost) (event : HostEvent) (lease : PanelLease) (sequence : Nat) : Prop :=
  ∃ now marker shmKey, event = .work now (some marker) ∧ s.worker.surfaces lease.key = some shmKey ∧
    (s.shm shmKey).commitSequence = sequence ∧
    (s.next event).worker.backend.copies = s.worker.backend.copies ++ [fullCopy (s.env now (some marker)) shmKey]

variable {record : SubmissionRecord} {lease : PanelLease}

/-- A switch that is on record as accepted has shown the whole surface of its lease. -/
theorem MadeBy.switched (made : s.MadeBy event record) (switches : record.reason = .foregroundSwitch)
    (success : record.success = true) :
    s.CopiedWhole event record.lease record.surfaceSequence ∧
      (s.next event).worker.foreground = some record.lease := by
  rcases made with ink | damage | ⟨now, marker, command, rest, rfl, _, _, worker, submitted⟩
  · rw [ink] at switches
    cases switches
  · rw [damage] at switches
    cases switches
  obtain ⟨_, _, _, shmKey, registered, committed⟩ := submitted.pictured (by simp [switches]) (by simp [switches])
  have accepted : marker.isSome = true := submitted.success.symm.trans success
  obtain ⟨marked, rfl⟩ := Option.isSome_iff_exists.mp accepted
  have outcome : SwitchOutcome (s.env now (some marked)) s.worker record.lease
      (s.worker.handle (s.env now (some marked)) command) := by
    have named := submitted.reason
    rw [switches] at named
    cases command with
    | setForeground lease fullRefresh =>
      cases named
      exact setForeground_spec _ _ fullRefresh
    | activateForeground lease inkEnabled fullRefresh =>
      cases named
      exact activateForeground_spec _ _ inkEnabled fullRefresh
    | _ => cases named
  rcases outcome with ⟨absent, _, _⟩ | ⟨found, there, switched, _⟩
  · rw [registered] at absent
    cases absent
  · rw [registered] at there
    cases there
    refine ⟨⟨now, marked, shmKey, rfl, registered, committed.symm, ?_⟩, ?_⟩
    · rw [worker, switched.copies]
    · rw [worker, switched.foreground]
      rfl

/-- An unlock that is on record as accepted has replaced the lock's frame by the whole surface of
    its lease. -/
theorem MadeBy.unlocked (made : s.MadeBy event record) (sound : s.LockSound) (unlocks : record.reason = .unlockScreen)
    (success : record.success = true) :
    s.CopiedWhole event record.lease record.surfaceSequence ∧
      (∃ lock, s.worker.lock = some lock ∧ lock.lease = record.lease) ∧ (s.next event).worker.lock = none ∧
      (s.next event).worker.foreground = some record.lease := by
  rcases made with ink | damage | ⟨now, marker, command, rest, rfl, _, _, worker, submitted⟩
  · rw [ink] at unlocks
    cases unlocks
  · rw [damage] at unlocks
    cases unlocks
  obtain ⟨_, _, _, shmKey, registered, committed⟩ := submitted.pictured (by simp [unlocks]) (by simp [unlocks])
  have accepted : marker.isSome = true := submitted.success.symm.trans success
  obtain ⟨marked, rfl⟩ := Option.isSome_iff_exists.mp accepted
  have named := submitted.reason
  have succeeded := submitted.succeeded unlocks success
  rw [unlocks] at named
  cases command with
  | cancelLock lease sleepEpoch sequence =>
    cases named
    have spec := cancelLock_spec (s.env now (some marked)) (p := s.worker) record.lease sleepEpoch sequence
    simp only [handle] at worker succeeded
    generalize s.worker.cancelLock (s.env now (some marked)) record.lease sleepEpoch sequence = outcome at spec worker succeeded
    cases spec with
    | failed error q view backend => cases succeeded
    | released q found holds there positive reached presented =>
      rw [registered] at there
      cases there
      obtain ⟨lock, held, owner⟩ : ∃ lock, s.worker.lock = some lock ∧ lock.lease = record.lease := by
        cases held : s.worker.lock with
        | none => simp [holdsLock, held] at holds
        | some lock =>
          simp only [holdsLock, held, Option.any_some, Bool.and_eq_true, decide_eq_true_eq] at holds
          exact ⟨lock, rfl, holds.2⟩
      have shows : s.worker.foreground = some record.lease := owner ▸ (sound.frozen held).1.foreground
      obtain ⟨view, copies⟩ := presentSurface_spec (s.env now (some marked)) (p := s.worker) record.lease
        ((s.env now (some marked)).shm shmKey).fullRect .full .unlockScreen
      rw [presented] at view copies
      rw [presentedCopy_full _ shows registered] at copies
      refine ⟨⟨now, marked, shmKey, rfl, registered, committed.symm, ?_⟩, ⟨lock, held, owner⟩, ?_, ?_⟩
      · rw [worker]
        exact copies
      · rw [worker]
      · rw [worker]
        exact view.foreground.trans shows
  | _ => cases named

/-! ## The lock's frame -/

/-- A switch that succeeds has presented the whole surface, which the vendor library took. -/
theorem setForegroundWith_presented (env : PanelEnv) {intent : RefreshIntent} {reason : SubmissionReason}
    (succeeded : (p.setForegroundWith env lease intent reason).1 = .ok ()) :
    env.marker ≠ none ∧ ∃ shmKey, p.surfaces lease.key = some shmKey ∧
      (p.setForegroundWith env lease intent reason).2.backend.copies = p.backend.copies ++ [fullCopy env shmKey] ∧
      (p.setForegroundWith env lease intent reason).2.telemetry.lastPresented =
        some (lease.key, (env.shm shmKey).commitSequence) := by
  rcases setForegroundWith_spec env (p := p) lease intent reason with ⟨_, _, error, failed⟩ | ⟨shmKey, registered, switched, _⟩
  · rw [failed] at succeeded
    cases succeeded
  suffices told : env.marker ≠ none ∧ (p.setForegroundWith env lease intent reason).2.telemetry.lastPresented =
      some (lease.key, (env.shm shmKey).commitSequence) from ⟨told.1, shmKey, registered, switched.copies, told.2⟩
  unfold setForegroundWith surface at succeeded ⊢
  rw [registered] at succeeded ⊢
  simp only [Option.map_some] at succeeded ⊢
  generalize begun : { (p.discardReplaced lease).abortInk with ink := default, foreground := some lease } = started
    at succeeded ⊢
  have surfaces : started.surfaces lease.key = some shmKey := by
    rw [← begun]
    exact (congrFun (discardReplaced_view lease).1 lease.key).trans registered
  have copied := presentedCopy_full env (p := started) (by rw [← begun]) surfaces
  have result := presentSurface_result env (p := started) lease (env.shm shmKey).fullRect intent reason
  rcases presented : started.presentSurface env lease (env.shm shmKey).fullRect intent reason with ⟨outcome, q⟩
  rw [presented] at succeeded result
  rw [copied] at result
  cases outcome with
  | error error => cases succeeded
  | ok _ =>
    have last := (presentSurface_submitted copied presented).1
    refine ⟨fun unmarked => ?_, last⟩
    rw [if_pos ⟨rfl, unmarked⟩] at result
    cases result

theorem showLock_pictures (env : PanelEnv) (unlocked : p.lock = none) (lease : PanelLease) (sleepEpoch : Nat)
    {lock : PanelLock} (held : (p.showLock env lease sleepEpoch).2.lock = some lock) :
    lock.lease = lease ∧ 0 < lock.frozenSurfaceSequence ∧ env.marker ≠ none ∧ ∃ shmKey, p.surfaces lease.key = some shmKey ∧
      (p.showLock env lease sleepEpoch).2.backend.copies = p.backend.copies ++ [fullCopy env shmKey] ∧
      (env.shm shmKey).commitSequence = lock.frozenSurfaceSequence := by
  obtain ⟨outcome, _, rfl, ⟨same, _⟩ | ⟨succeeded, sequence, presented, positive, locked⟩⟩ :=
    showLock_told env (p := p) lease sleepEpoch
  · rw [same] at held
    rcases setForegroundWith_spec env (p := p) lease .full .lockScreen with ⟨_, unchanged, _⟩ | ⟨_, _, switched, _⟩
    · rw [unchanged, unlocked] at held
      cases held
    · rw [switched.lock, unlocked] at held
      cases held
  · obtain ⟨marked, shmKey, registered, copies, last⟩ := setForegroundWith_presented env succeeded
    rw [locked] at held ⊢
    cases held
    rw [last] at presented
    exact ⟨rfl, positive, marked, shmKey, registered, copies, (Prod.mk.inj (Option.some.inj presented)).2⟩

/-- The event took the lock: it copied the whole surface of the lock's lease, as it was committed. -/
structure TookLock (s : DisplayHost) (event : HostEvent) (lock : PanelLock) : Prop where
  free : s.worker.lock = none
  held : (s.next event).worker.lock = some lock
  committed : 0 < lock.frozenSurfaceSequence
  copied : s.CopiedWhole event lock.lease lock.frozenSurfaceSequence

/-- A lock that is held after an event was held before, over the same screen, or the event took it. -/
theorem next_locks (sound : s.LockSound) (event : HostEvent) {lock : PanelLock} (held : (s.next event).worker.lock = some lock) :
    SameScreen s.worker (s.next event).worker ∨ s.TookLock event lock := by
  cases free : s.worker.lock with
  | some before =>
    refine .inl ((next_frozen sound free event).resolve_right ?_)
    rintro ⟨_, _, _, _, _, _, _, released, _⟩
    rw [held] at released
    cases released
  | none =>
    refine .inr ?_
    have works := next_works s event
    generalize after : s.next event = t at works held
    cases works with
    | alone worker running =>
      rw [worker, free] at held
      cases held
    | deferred lease rect intent worker running =>
      rw [worker, show ({ s.worker with telemetry := _ } : PanelRuntime).lock = none from free] at held
      cases held
    | @handled now marker t command rest runs queue worker stale =>
      subst after
      have locks := held
      rw [worker] at locks
      by_cases shows : ∃ lease sleepEpoch, command = .showLock lease sleepEpoch
      · obtain ⟨lease, sleepEpoch, rfl⟩ := shows
        obtain ⟨rfl, positive, marked, shmKey, registered, copies, committed⟩ :=
          showLock_pictures (s.env now marker) free lease sleepEpoch locks
        obtain ⟨accepted, rfl⟩ := Option.ne_none_iff_exists'.mp marked
        refine ⟨free, held, positive, now, accepted, shmKey, rfl, registered, committed, ?_⟩
        rw [worker]
        exact copies
      · rw [(handle_unlocked (s.env now marker) free fun lease sleepEpoch same => shows ⟨lease, sleepEpoch, same⟩).1] at locks
        cases locks
    | undeferred runs worker =>
      rw [worker, (flushDeferredDamage_pictures _).lock, free] at held
      cases held
    | settled runs worker =>
      rw [worker, (flushDeadlines_pictures _).lock, free] at held
      cases held

/-! ## Every run -/

/-- All that the telemetry and the lock keep to. -/
structure Truthful (s : DisplayHost) : Prop where
  invariant : s.LockInvariant
  reported : s.Reported
  numbered : s.Numbered

theorem start_truthful (shm : Nat → SharedSurface) (backend : PanelBackend) : (start shm backend).Truthful :=
  ⟨⟨start_lockSound shm backend, waits_of_idle rfl⟩, start_reported shm backend, start_numbered shm backend⟩

theorem next_truthful (s : DisplayHost) (event : HostEvent) (truthful : s.Truthful) : (s.next event).Truthful :=
  ⟨next_invariant s event truthful.invariant, (next_works s event).reported truthful.reported,
    next_numbered s event truthful.numbered⟩

/-- A lock that is held was taken by an event of the run, and the screen is as that left it. -/
theorem lock_taken (truthful : s.Truthful) (free : s.worker.lock = none) (events : List HostEvent) {lock : PanelLock}
    (held : (events.foldl next s).worker.lock = some lock) :
    ∃ before event, before ++ [event] <+: events ∧ (before.foldl next s).TookLock event lock ∧
      SameScreen ((before.foldl next s).next event).worker (events.foldl next s).worker := by
  induction events using List.reverseRecOn with
  | nil =>
    rw [List.foldl_nil, free] at held
    cases held
  | append_singleton events event ih =>
    have invariant : (events.foldl next s).Truthful := Runs.run_invariant next_truthful events truthful
    rw [List.foldl_append, List.foldl_cons, List.foldl_nil] at held ⊢
    rcases next_locks invariant.invariant.1 event held with same | took
    · obtain ⟨before, taking, within, took, since⟩ := ih (same.1.symm.trans held)
      exact ⟨before, taking, within.trans (List.prefix_append _ _), took, same.1.trans since.1, same.2.trans since.2⟩
    · exact ⟨events, event, List.prefix_rfl, took, rfl, rfl⟩

/-! ## Ink -/

/-- Ink is enabled for the lease, and the lease shows. -/
structure Inked (s : DisplayHost) (lease : PanelLease) : Prop where
  enabled : s.worker.ink.enabled = true
  owner : s.worker.ink.lease = lease
  shows : s.worker.foreground = some lease

theorem Reported.inked (reported : s.Reported) (runs : s.running = true)
    (committed : s.worker.telemetry.committedInk = some (lease, true)) : s.Inked lease := by
  obtain ⟨told, held⟩ := reported.ink runs
  obtain ⟨enabled, owner⟩ := (told lease).mp committed
  exact ⟨enabled, owner, owner ▸ held.1 enabled⟩

/-- Ink that is committed after an event was so before, or is enabled by then. -/
theorem Works.inked (works : Works s event t) (reported : s.Reported)
    (committed : t.worker.telemetry.committedInk = some (lease, true)) :
    s.worker.telemetry.committedInk = some (lease, true) ∨ t.Inked lease := by
  cases works with
  | alone worker running =>
    rw [worker] at committed
    exact .inl committed
  | deferred lease rect intent worker running =>
    rw [worker] at committed
    exact .inl committed
  | undeferred runs worker =>
    rw [worker, (flushDeferredDamage_pictures _).reports.committedInk] at committed
    exact .inl committed
  | settled runs worker =>
    rw [worker, (flushDeadlines_pictures _).reports.committedInk] at committed
    exact .inl committed
  | @handled now marker t command rest runs queue worker stale =>
    obtain ⟨told, held⟩ := reported.ink runs
    cases result : (s.worker.handle (s.env now marker) command).1 with
    | error error =>
      rw [worker] at committed
      exact .inl (handle_failed _ command result committed)
    | ok _ =>
      have told := handle_inkTold (s.env now marker) command told held fun error failed => by
        rw [result] at failed
        cases failed
      have held := (handle_keeps (s.env now marker) command held).1
      rw [← worker] at told held
      obtain ⟨enabled, owner⟩ := (told lease).mp committed
      exact .inr ⟨enabled, owner, owner ▸ held.1 enabled⟩

/-- Ink that is committed was enabled at a moment since the worker was running: the worker that
    has ended has left its telemetry as it was. -/
theorem inked_since (truthful : s.Truthful) (runs : s.running = true) (events : List HostEvent)
    (committed : (events.foldl next s).worker.telemetry.committedInk = some (lease, true)) :
    ∃ before, before <+: events ∧ (before.foldl next s).Inked lease := by
  induction events using List.reverseRecOn with
  | nil => exact ⟨[], List.prefix_rfl, truthful.reported.inked runs committed⟩
  | append_singleton events event ih =>
    have invariant : (events.foldl next s).Truthful := Runs.run_invariant next_truthful events truthful
    rw [List.foldl_append, List.foldl_cons, List.foldl_nil] at committed
    rcases (next_works _ event).inked invariant.reported committed with before | inked
    · obtain ⟨earlier, within, inked⟩ := ih before
      exact ⟨earlier, within.trans (List.prefix_append _ _), inked⟩
    · exact ⟨events ++ [event], List.prefix_rfl, by rwa [List.foldl_append, List.foldl_cons, List.foldl_nil]⟩

theorem next_running (s : DisplayHost) (event : HostEvent) (runs : (s.next event).running = true) : s.running = true := by
  have works := next_works s event
  generalize s.next event = t at works runs
  cases works with
  | alone worker running => exact running runs
  | deferred lease rect intent worker running => exact running runs
  | handled command rest before queue worker stale => exact before
  | undeferred before worker => exact before
  | settled before worker => exact before

theorem running_before (events : List HostEvent) (runs : (events.foldl next s).running = true) : s.running = true := by
  induction events generalizing s with
  | nil => exact runs
  | cons event rest ih => exact next_running s event (ih runs)

theorem CopiedWhole.running {sequence : Nat} (copied : s.CopiedWhole event lease sequence) : s.running = true := by
  obtain ⟨now, marker, shmKey, rfl, _, _, copies⟩ := copied
  by_contra ended
  have still : s.next (.work now (some marker)) = s := by simp [next, whileRunning, ended]
  rw [still] at copies
  simp at copies

end DisplayHost
end Remagic.Display
