import Remagic.DisplayAnswers

/-!
# What an acknowledged call has done

A lock that the daemon was told of froze the panel on the whole frame that it was taken
from; a foreground that it was told of showed, and its frame was submitted during the
call; an unlock that it was told of replaced the lock's frame by one that is late
enough. This holds in every run of the host, whatever goes on beside the call and
however often the connection fails before the call ends well.
-/

namespace Remagic.Display
open Tasks DisplayHost PanelRuntime

/-! ## Sleep epochs -/

namespace HostState
variable {s t : HostState}

/-- The lock stays, ends or is a new one, of an epoch and a lease that were never seen. -/
def LockMoves (s t : HostState) : Prop :=
  t.lock = s.lock ∨ t.lock = none ∨ ∃ lock, t.lock = some lock ∧ s.lastSleepEpoch < lock.sleepEpoch ∧
    s.fence lock.foreground.key < (lock.foreground.panelLease.fence : WithBot (ℕ ×ₗ ℕ))

theorem Within.fence {lease : PanelLease} (within : s.Within lease) :
    (lease.fence : WithBot (ℕ ×ₗ ℕ)) ≤ s.fence lease.key := by
  obtain ⟨generation, epoch, recorded, older⟩ := within
  unfold HostState.fence PanelLease.fence
  rw [recorded]
  refine WithBot.coe_le_coe.mpr (Prod.Lex.toLex_le_toLex.mpr ?_)
  exact older

theorem Operated.lockMoves {cancelled : Nat} (operated : Operated cancelled s t) : LockMoves s t := by
  have fenced : ∀ h : HostState, h.fenceInputContacts.lock = h.lock := by
    intro h
    obtain ⟨_, _, unmoved⟩ := fence_unmoved h
    exact unmoved.lock
  cases operated with
  | switched lease fullRefresh unlocked admits => exact .inl (fenced _)
  | prepared lease unlocked admits => exact .inl (fenced _)
  | cleared lease unlocked shows => exact .inl (fenced _)
  | locked lease sleepEpoch unlocked unprepared newer admits => exact .inr (.inr ⟨_, rfl, newer, admits.above⟩)
  | finished lock locked acknowledged => exact .inr (.inl rfl)
  | _ => exact .inl rfl

theorem stepped_lockMoves {s t : InputState} {event : HostEvent} (stepped : Stepped s event t) : LockMoves s.host t.host := by
  have dispatched : ∀ captured, LockMoves s.host (s.host.dispatchCapturedInput s.committed captured).2 := by
    intro captured
    obtain ⟨_, _, unmoved, _⟩ := dispatch_frame (s := s.host) s.committed captured
    exact .inl unmoved.lock
  cases stepped with
  | aborted client key registering =>
    have kept : (s.host.abortRegistration key).lock = s.host.lock := by
      rcases abortRegistration_spec (s := s.host) key with same | ⟨_, _, _, same | same⟩ <;> rw [same] <;> rfl
    exact .inl kept
  | left client key host active departs => exact .inl departs.lock
  | operated cancelled host operated => exact operated.lockMoves
  | finished sleepEpoch => exact .inr (.inl rfl)
  | dispatchedPen captured rest queue => exact dispatched captured
  | dispatchedTouch captured rest queue => exact dispatched captured
  | injected epoch frame => exact dispatched _
  | _ => exact .inl rfl

end HostState

namespace DisplayHost
variable {s : DisplayHost} {lease : PanelLease} {sleepEpoch : Nat}

/-- The epoch and the lease are seen, and the lock is of both or of neither. -/
structure Owns (s : DisplayHost) (lease : PanelLease) (sleepEpoch : Nat) : Prop where
  past : sleepEpoch ≤ s.host.lastSleepEpoch
  granted : (lease.fence : WithBot (ℕ ×ₗ ℕ)) ≤ s.host.fence lease.key
  sole : ∀ lock, s.host.lock = some lock → (lock.sleepEpoch = sleepEpoch ↔ lock.foreground.panelLease = lease)

theorem LockSound.owns (sound : s.LockSound) {lock : LockLease} (held : s.host.lock = some lock) :
    s.Owns lock.foreground.panelLease lock.sleepEpoch := by
  obtain ⟨requested, past, _, _⟩ := sound.locked lock held
  refine ⟨past, (sound.granted _ (.inl requested)).fence, ?_⟩
  intro other held'
  cases held.symm.trans held'
  exact ⟨fun _ => rfl, fun _ => rfl⟩

theorem next_owns (s : DisplayHost) (event : HostEvent) (owns : s.Owns lease sleepEpoch) :
    (s.next event).Owns lease sleepEpoch := by
  have stepped := next_stepped s event
  have onward := stepped_onward stepped
  refine ⟨owns.past.trans onward.sleeps, owns.granted.trans (onward.fences lease.key), ?_⟩
  intro lock held
  rcases HostState.stepped_lockMoves stepped with kept | gone | ⟨new, held', newer, above⟩
  · exact owns.sole lock (kept.symm.trans held)
  · cases gone.symm.trans held
  · cases held'.symm.trans held
    have past : sleepEpoch ≤ s.host.lastSleepEpoch := owns.past
    have newer : s.host.lastSleepEpoch < lock.sleepEpoch := newer
    constructor
    · intro same
      omega
    · rintro rfl
      exact absurd owns.granted (not_le_of_gt above)

/-- Every lock has an epoch. -/
def Dated (s : DisplayHost) : Prop := ∀ lock, s.host.lock = some lock → lock.sleepEpoch ≠ 0

theorem start_dated (shm : Nat → SharedSurface) (backend : PanelBackend) : (start shm backend).Dated := by
  intro lock held
  simp [start, HostState.new] at held

theorem next_dated (s : DisplayHost) (event : HostEvent) (dated : s.Dated) : (s.next event).Dated := by
  intro lock held
  rcases HostState.stepped_lockMoves (next_stepped s event) with kept | gone | ⟨new, held', newer, _⟩
  · exact dated lock (kept.symm.trans held)
  · cases gone.symm.trans held
  · cases held'.symm.trans held
    exact Nat.ne_of_gt (Nat.zero_lt_of_lt newer)

/-- A lock that was asked for with success is the host's. -/
theorem showLock_locks {key : Int} {generation epoch : Nat} (free : s.foregroundOps = none)
    (shown : Call.reply s (.showLock key generation epoch sleepEpoch) = .ok ()) :
    ∃ lock, (s.next (.showLock key generation epoch sleepEpoch)).host.lock = some lock ∧
      lock.sleepEpoch = sleepEpoch ∧ lock.foreground.panelLease = ⟨key, generation, epoch⟩ := by
  have succeeds : s.succeeds (HostState.showLock key generation epoch sleepEpoch) = true := by
    have ok : ((HostState.showLock key generation epoch sleepEpoch).run s.host).1 = .ok () := shown
    simp only [DisplayHost.succeeds, free, ok, Option.isNone_none, Bool.true_and]
    rfl
  have host : (s.next (.showLock key generation epoch sleepEpoch)).host =
      ((HostState.showLock key generation epoch sleepEpoch).run s.host).2 := exclusively_perform free
  rw [host]
  obtain ⟨_, _, again | ⟨_, _, _, _, after⟩⟩ := succeeds_spec (HostState.showLock_spec _ _ _ _) succeeds
  · obtain ⟨lock, held, same, owner, after⟩ := again
    rw [after]
    exact ⟨lock, held, same, owner⟩
  · rw [after]
    exact ⟨_, rfl, rfl, rfl⟩

/-! ## The frozen screen -/

/-- From the moment on that the worker holds a lock its screen stays, until the lock is released. -/
theorem screen_until_released (truthful : s.Truthful) {lock : PanelLock} (held : s.worker.lock = some lock)
    (events : List HostEvent) :
    SameScreen s.worker (events.foldl next s).worker ∨
    ∃ before event, before ++ [event] <+: events ∧ (before.foldl next s).Released event lock := by
  induction events using List.reverseRecOn with
  | nil => exact .inl ⟨rfl, rfl⟩
  | append_singleton events event ih =>
    have invariant : (events.foldl next s).Truthful := Runs.run_invariant next_truthful events truthful
    rcases ih with same | ⟨before, releasing, within, released⟩
    · rw [List.foldl_append, List.foldl_cons, List.foldl_nil]
      rcases next_frozen invariant.invariant.1 (same.1.trans held) event with still | released
      · exact .inl ⟨still.1.trans same.1, still.2.trans same.2⟩
      · exact .inr ⟨events, event, List.prefix_rfl, released⟩
    · exact .inr ⟨before, releasing, within.trans (List.prefix_append _ _), released⟩

/-- The panel shows the lease, and is frozen under the lock of the epoch. -/
structure LockedOn (s : DisplayHost) (lease : PanelLease) (sleepEpoch : Nat) (lock : PanelLock) : Prop where
  held : s.worker.lock = some lock
  epoch : lock.sleepEpoch = sleepEpoch
  owner : lock.lease = lease
  shows : s.worker.foreground = some lease

/-- The lock that the worker holds is the host's. -/
theorem LockSound.hosted (sound : s.LockSound) {lock : PanelLock} (held : s.worker.lock = some lock) :
    ∃ hostLock, s.host.lock = some hostLock ∧ hostLock.sleepEpoch = lock.sleepEpoch ∧
      hostLock.foreground.panelLease = lock.lease := by
  cases hosted : s.host.lock with
  | none => simp [(sound.unlocked hosted).1] at held
  | some hostLock =>
    obtain ⟨_, _, _, phase⟩ := sound.locked hostLock hosted
    cases phase with
    | queued before after waits first quiet unheld uncancelled => simp [unheld] at held
    | shown sequence quiet frozen uncancelled =>
      cases frozen.held.symm.trans held
      exact ⟨hostLock, rfl, rfl, rfl⟩
    | ended quiet unheld => simp [unheld] at held

/-- What the daemon may ask of every state that the host reaches. -/
structure Reliable (s : DisplayHost) : Prop where
  truthful : s.Truthful
  dated : s.Dated

theorem start_reliable (shm : Nat → SharedSurface) (backend : PanelBackend) : (start shm backend).Reliable :=
  ⟨start_truthful shm backend, start_dated shm backend⟩

theorem next_reliable (s : DisplayHost) (event : HostEvent) (reliable : s.Reliable) : (s.next event).Reliable :=
  ⟨next_truthful s event reliable.truthful, next_dated s event reliable.dated⟩

/-- The host's lock is on the panel once the telemetry has committed its epoch. -/
theorem Reliable.lockedOn (reliable : s.Reliable) {lock : LockLease} (held : s.host.lock = some lock)
    (committed : s.worker.telemetry.committedLockEpoch = lock.sleepEpoch) :
    ∃ shown, s.LockedOn lock.foreground.panelLease lock.sleepEpoch shown := by
  obtain ⟨_, _, _, phase⟩ := reliable.truthful.invariant.1.locked lock held
  have announced := reliable.truthful.reported.announced.lock
  rw [committed] at announced
  have unheld : s.worker.lock ≠ none := by
    intro none
    rw [none] at announced
    exact reliable.dated lock held announced
  cases phase with
  | queued before after waits first quiet none uncancelled => exact absurd none unheld
  | shown sequence quiet frozen uncancelled =>
    exact ⟨_, frozen.held, rfl, rfl, frozen.foreground⟩
  | ended quiet none => exact absurd none unheld

end DisplayHost

namespace Call
variable {first : DisplayHost} {log later : List (List HostEvent)} {snapshot : Snapshot}

/-! ## Verdicts -/

theorem once_spec {α : Type} {done : Bool} {value result : α} (judged : once done value = .ok (some result)) :
    done = true ∧ result = value := by
  cases done with
  | false => cases judged
  | true =>
    cases judged
    exact ⟨rfl, rfl⟩

theorem unlessFailing_spec {α : Type} {failures : Nat} {message : Snapshot → String} {done : Snapshot → Verdict α}
    {result : α} (judged : unlessFailing failures message done snapshot = .ok (some result)) :
    done snapshot = .ok (some result) := by
  unfold unlessFailing at judged
  split at judged
  · cases judged
  · exact judged

/-! ## Locking -/

theorem Told.lockedOn (told : Told first log later snapshot) (reliable : first.Reliable)
    (committed : snapshot.lockCommitted = true) :
    ∃ s lease lock, Within first log later s ∧ s.LockedOn lease snapshot.lockEpoch lock ∧
      s.host.lock.map (fun lock => (lock.sleepEpoch, lock.foreground.panelLease)) = some (snapshot.lockEpoch, lease) ∧
      snapshot.matchesForeground lease.key lease.generation lease.foregroundEpoch = true := by
  obtain ⟨s, lock, within, held, same, epoch, shown⟩ := told.locked committed
  have there : s.Reliable := within.run next_reliable reliable
  obtain ⟨panelLock, locked⟩ := there.lockedOn held (epoch.trans same.symm)
  exact ⟨s, lock.foreground.panelLease, panelLock, within, same ▸ locked, by rw [held, Option.map_some, same], shown⟩

theorem tells_showLock (reliable : first.Reliable) (polls : Nat) (key : Int) (generation epoch sleepEpoch : Nat) :
    Tells first (fun _ later => ∃ s lock, Within first log later s ∧
      s.LockedOn ⟨key, generation, epoch⟩ sleepEpoch lock) (showLock polls key generation epoch sleepEpoch) log := by
  unfold showLock
  refine tells_bind tells_status fun before known ⟨longer, _⟩ => ?_
  refine tells_bind (tells_request _) ?_
  rintro _ asked ⟨mid, starts, goes, free, shown⟩
  have locking : ∃ lock, (ran first (mid ++ [[.showLock key generation epoch sleepEpoch]])).host.lock = some lock ∧
      lock.sleepEpoch = sleepEpoch ∧ lock.foreground.panelLease = ⟨key, generation, epoch⟩ := by
    rw [ran_append]
    exact showLock_locks free shown
  have request : (ran first (mid ++ [[.showLock key generation epoch sleepEpoch]])).Reliable :=
    (within_ran List.prefix_rfl List.prefix_rfl).run next_reliable reliable
  obtain ⟨lock, held, rfl, owner⟩ := locking
  have owns := request.truthful.invariant.1.owns held
  rw [owner] at owns
  -- from the request on a lock of this epoch is of this lease
  have decided : ∀ {snapshot : Snapshot} {from' later : List (List HostEvent)}, asked <+: from' →
      Told first from' later snapshot → snapshot.lockEpoch = lock.sleepEpoch → snapshot.lockCommitted = true →
      ∃ s shown, Within first log later s ∧ s.LockedOn ⟨key, generation, epoch⟩ lock.sleepEpoch shown := by
    intro snapshot from' later after told same committed
    obtain ⟨s, lease, panelLock, within, locked, hosted, _⟩ := told.lockedOn reliable committed
    obtain ⟨events, rfl⟩ := within.since (goes.trans after)
    obtain ⟨hostLock, held', matching⟩ := Option.map_eq_some_iff.mp hosted
    obtain ⟨epochs, leases⟩ := Prod.mk.inj matching
    have sole := (Runs.run_invariant next_owns events owns).sole hostLock held'
    refine ⟨_, panelLock, within.wider ?_ List.prefix_rfl, ?_⟩
    · exact longer.trans (starts.trans ((List.prefix_append _ _).trans (goes.trans after)))
    · rw [same, leases.symm.trans (sole.mp (epochs.trans same))] at locked
      exact locked
  refine tells_bind tells_status fun current later told => ?_
  by_cases done : lockIsCommittedAs current key generation epoch lock.sleepEpoch = true
  · rw [if_pos done]
    simp only [lockIsCommittedAs, Bool.and_eq_true, decide_eq_true_eq] at done
    exact tells_pure (decided List.prefix_rfl told.2 done.1.1 done.1.2)
  · rw [if_neg done]
    refine tells_poll polls ?_
    intro snapshot from' later' result after _ told' judged
    have judged := unlessFailing_spec judged
    split at judged
    · rename_i committed
      simp only [Bool.and_eq_true, decide_eq_true_eq] at committed
      exact decided (told.1.trans after) told' committed.1.1 committed.1.2
    split at judged <;> cases judged

/-! ## Submissions of the call -/

/-- A submission after the baseline of an earlier snapshot was made after that was read. -/
theorem submitted_made {early late : Snapshot} {earlier earliest : List (List HostEvent)} {s : DisplayHost}
    (reliable : first.Reliable) (baseline : Within first earliest earlier s)
    (known : early.recentSubmissions = s.worker.telemetry.recentSubmissions) (told : Told first log later late)
    (after : earlier <+: log) {record : SubmissionRecord} (member : record ∈ late.recentSubmissions)
    (newer : early.lastSubmissionSequence < record.sequence) :
    ∃ before event, earliest.flatten <+: before ∧ before ++ [event] <+: later.flatten ∧
      (∃ events : List HostEvent, before.foldl next first = events.foldl next s) ∧
      (before.foldl next first).MadeBy event record := by
  obtain ⟨begun, starts, ends, rfl⟩ := baseline
  obtain ⟨_, ⟨reached, since, within, rfl⟩, told, _⟩ := told.submissions
  obtain ⟨events, rfl⟩ := ends.trans ((flatten_mono after).trans since)
  rw [told, List.foldl_append] at member
  have numbered : (begun.foldl next first).Numbered :=
    (Runs.run_invariant next_reliable begun reliable).truthful.numbered
  rcases record_made events member with old | ⟨before, event, part, made⟩
  · have bounded := numbered.1 record old
    rw [← numbered.2, ← known] at bounded
    exact absurd newer (not_lt.mpr bounded)
  · refine ⟨begun ++ before, event, starts.trans (List.prefix_append _ _), ?_, ⟨before, List.foldl_append⟩, ?_⟩
    · rw [List.append_assoc]
      exact ((List.prefix_append_right_inj begun).mpr part).trans within
    · rw [List.foldl_append]
      exact made

/-- What a matching submission of a snapshot is. -/
theorem submitted_spec {baseline sequence : Nat} {lease : PanelLease} {intents : List RefreshIntent}
    {reason : SubmissionReason} (submitted : snapshot.submitted baseline lease intents reason sequence = true) :
    ∃ record ∈ snapshot.recentSubmissions, baseline < record.sequence ∧ record.lease = lease ∧ record.reason = reason ∧
      sequence ≤ record.surfaceSequence ∧ record.success = true := by
  obtain ⟨record, member, matching⟩ := List.any_eq_true.mp submitted
  simp only [Bool.and_eq_true, decide_eq_true_eq] at matching
  obtain ⟨⟨⟨⟨⟨⟨⟨newer, owner⟩, _⟩, why⟩, reached⟩, _⟩, success⟩, _⟩ := matching
  exact ⟨record, member, newer, owner, why, reached, success⟩

/-! ## Switching -/

/-- During the call the panel took the whole surface of the lease and showed it. -/
def SwitchedTo (first : DisplayHost) (log later : List (List HostEvent)) (lease : PanelLease) : Prop :=
  ∃ before event sequence, log.flatten <+: before ∧ before ++ [event] <+: later.flatten ∧ 0 < sequence ∧
    (before.foldl next first).CopiedWhole event lease sequence ∧
    ((before.foldl next first).next event).worker.foreground = some lease

theorem tells_waitForForegroundSubmission (reliable : first.Reliable) {earliest : List (List HostEvent)}
    {baseline : Snapshot} (known : Told first earliest log baseline) (polls failures : Nat) (key : Int)
    (generation epoch : Nat) (fullRefresh : Bool) {asked : List (List HostEvent)} (after : log <+: asked) :
    Tells first (fun snapshot later => asked <+: later ∧ SwitchedTo first earliest later ⟨key, generation, epoch⟩ ∧
        ∃ from', asked <+: from' ∧ from' <+: later ∧ Told first from' later snapshot ∧
          snapshot.matchesForeground key generation epoch = true)
      (waitForForegroundSubmission polls baseline.lastSubmissionSequence failures key generation epoch fullRefresh)
      asked := by
  refine tells_poll polls ?_
  intro snapshot from' later result longer ends told judged
  have judged := unlessFailing_spec judged
  obtain ⟨done, rfl⟩ := once_spec judged
  simp only [Bool.and_eq_true, Snapshot.hasPresented] at done
  obtain ⟨record, member, newer, owner, switches, reached, success⟩ := submitted_spec done.2
  obtain ⟨s, within, recent, _⟩ := known.submissions
  obtain ⟨before, event, starts, part, _, made⟩ :=
    submitted_made reliable within recent told (after.trans longer) member newer
  obtain ⟨copied, shows⟩ := made.switched switches success
  rw [owner] at copied shows
  exact ⟨longer.trans ends, ⟨before, event, _, starts, part, reached, copied, shows⟩, from', longer, ends, told,
    done.1.1.1.1⟩

theorem tells_setForeground (reliable : first.Reliable) (polls : Nat) (key : Int) (generation epoch : Nat)
    (fullRefresh : Bool) :
    Tells first (fun _ later => SwitchedTo first log later ⟨key, generation, epoch⟩)
      (setForeground polls key generation epoch fullRefresh) log := by
  unfold setForeground
  refine tells_bind tells_status fun baseline known told => ?_
  refine tells_bind (onward_request _ known) fun _ asked after => ?_
  refine tells_bind (tells_waitForForegroundSubmission reliable told.2 polls _ key generation epoch fullRefresh after) ?_
  rintro snapshot later ⟨_, switched, _⟩
  exact tells_pure switched

/-- At a moment of the call ink was enabled for the lease, and the lease showed. -/
def InkedFor (first : DisplayHost) (log later : List (List HostEvent)) (lease : PanelLease) : Prop :=
  ∃ s, Within first log later s ∧ s.Inked lease

/-- The worker switched in the call, so it was running then, and ink that is committed later was
    enabled since. -/
theorem SwitchedTo.inkedFor {key : Int} {generation epoch : Nat} {from' : List (List HostEvent)} {lease : PanelLease}
    (switched : SwitchedTo first log later lease) (reliable : first.Reliable) (after : log <+: from')
    (told : Told first from' later snapshot) (inked : snapshot.inkEnabled = true)
    (shown : snapshot.matchesForeground key generation epoch = true) :
    InkedFor first log later ⟨key, generation, epoch⟩ := by
  obtain ⟨before, event, _, starts, part, _, copied, _⟩ := switched
  obtain ⟨_, ⟨read, since, ends, rfl⟩, committed⟩ := told.inked inked key generation epoch shown
  have there : (before.foldl next first).Truthful := (Runs.run_invariant next_reliable before reliable).truthful
  rcases List.prefix_or_prefix_of_prefix ((List.prefix_append before [event]).trans part) ends with earlier | later'
  · -- the ink was read after the switch
    obtain ⟨events, rfl⟩ := earlier
    rw [List.foldl_append] at committed
    obtain ⟨more, within, inked⟩ := inked_since there copied.running events committed
    refine ⟨_, ⟨before ++ more, starts.trans (List.prefix_append _ _), ?_, rfl⟩, by rwa [List.foldl_append]⟩
    exact ((List.prefix_append_right_inj before).mpr within).trans ends
  · -- the ink was read before the switch, where the worker was running already
    obtain ⟨events, rfl⟩ := later'
    have runs : (read.foldl next first).running = true := by
      have running := copied.running
      rw [List.foldl_append] at running
      exact running_before events running
    have reported := (Runs.run_invariant next_reliable read reliable).truthful.reported
    exact ⟨_, ⟨read, (flatten_mono after).trans since, ends, rfl⟩, reported.inked runs committed⟩

theorem tells_activateForeground (reliable : first.Reliable) (polls : Nat) (key : Int) (generation epoch : Nat)
    (inkEnabled fullRefresh : Bool) :
    Tells first (fun _ later => SwitchedTo first log later ⟨key, generation, epoch⟩ ∧
        (inkEnabled = true → InkedFor first log later ⟨key, generation, epoch⟩))
      (activateForeground polls key generation epoch inkEnabled fullRefresh) log := by
  unfold activateForeground
  refine tells_bind tells_status fun baseline known told => ?_
  refine tells_bind (onward_request _ known) fun _ asked after => ?_
  refine tells_bind (tells_waitForForegroundSubmission reliable told.2 polls _ key generation epoch fullRefresh after) ?_
  rintro snapshot later ⟨_, switched, from', starts, ends, told', shown⟩
  by_cases other : snapshot.inkEnabled ≠ inkEnabled
  · rw [if_pos other]
    exact tells_throw
  · rw [if_neg other]
    refine tells_pure ⟨switched, ?_⟩
    intro enabled
    have inked : snapshot.inkEnabled = true := (not_not.mp other).trans enabled
    exact switched.inkedFor reliable (told.1.trans (after.trans starts)) told' inked shown

theorem tells_configureInk (reliable : first.Reliable) (key : Int) (generation epoch : Nat) (enabled : Bool) :
    Tells first (fun _ later => (∃ s, Within first log later s ∧ s.worker.foreground = some ⟨key, generation, epoch⟩) ∧
        (enabled = true → ∃ s, Within first log later s ∧ (s.running = true → s.Inked ⟨key, generation, epoch⟩)))
      (configureInk key generation epoch enabled) log := by
  unfold configureInk
  refine tells_bind (onward_request _ log) fun _ asked after => ?_
  refine tells_bind tells_status fun snapshot later told => ?_
  by_cases refused : (!(snapshot.matchesForeground key generation epoch && snapshot.inkEnabled = enabled)) = true
  · rw [if_pos refused]
    exact tells_throw
  · rw [if_neg refused]
    simp only [Bool.not_eq_true', Bool.not_eq_false, Bool.and_eq_true, decide_eq_true_eq] at refused
    obtain ⟨shown, same⟩ := refused
    obtain ⟨s, within, committed⟩ := told.2.shows key generation epoch shown
    have there : s.Reliable := within.run next_reliable reliable
    refine tells_pure ⟨⟨s, within.wider after List.prefix_rfl, ?_⟩, ?_⟩
    · exact there.truthful.reported.announced.foreground.symm.trans committed
    · intro asked
      obtain ⟨s, within, committed⟩ := told.2.inked (same.trans asked) key generation epoch shown
      have there : s.Reliable := within.run next_reliable reliable
      exact ⟨s, within.wider after List.prefix_rfl, fun runs => there.truthful.reported.inked runs committed⟩

theorem tells_clearForeground (reliable : first.Reliable) (polls : Nat) :
    Tells first (fun _ later => ∃ s, Within first log later s ∧ s.worker.foreground = none) (clearForeground polls) log := by
  unfold clearForeground
  refine tells_bind (onward_request _ log) fun _ asked after => ?_
  refine tells_poll polls ?_
  intro snapshot from' later result longer ends told judged
  obtain ⟨s, within, committed⟩ := told.hidden (Option.isNone_iff_eq_none.mp (once_spec judged).1)
  have there : s.Reliable := within.run next_reliable reliable
  exact ⟨s, within.wider (after.trans longer) List.prefix_rfl,
    there.truthful.reported.announced.foreground.symm.trans committed⟩

/-! ## Unlocking -/

/-- During the call the panel released the lock of the epoch: it took the whole surface of the
    lock's lease in its place, from this commit or a later one. -/
def ReleasedDuring (first : DisplayHost) (log later : List (List HostEvent)) (sleepEpoch sequence : Nat) : Prop :=
  ∃ before event lock reached, log.flatten <+: before ∧ before ++ [event] <+: later.flatten ∧ sequence ≤ reached ∧
    (before.foldl next first).worker.lock = some lock ∧ lock.sleepEpoch = sleepEpoch ∧
    (before.foldl next first).CopiedWhole event lock.lease reached ∧
    ((before.foldl next first).next event).worker.lock = none ∧
    ((before.foldl next first).next event).worker.foreground = some lock.lease

theorem tells_cancelLock (reliable : first.Reliable) (polls sleepEpoch replacementSurfaceSequence : Nat) :
    Tells first (fun _ later => ReleasedDuring first log later sleepEpoch replacementSurfaceSequence ∧
        ∃ s, Within first log later s ∧ s.host.lock = none ∧ s.worker.lock = none)
      (cancelLock polls sleepEpoch replacementSurfaceSequence) log := by
  unfold cancelLock
  refine tells_bind tells_status fun before known told => ?_
  by_cases absent : before.lockEpoch ≠ sleepEpoch ∨ before.lockCommitted = false
  · rw [if_pos absent]
    exact tells_bind (M := fun _ _ => False) tells_throw fun _ _ never => never.elim
  rw [if_neg absent]
  simp only [not_or, not_not, Bool.not_eq_false] at absent
  obtain ⟨rfl, committed⟩ := absent
  obtain ⟨s, within, recent, locked⟩ := told.2.submissions
  obtain ⟨lock, held, dated, shown⟩ := locked committed
  obtain ⟨⟨keyed, generation⟩, epoch⟩ : (before.foregroundKey = some lock.foreground.key ∧
      before.generation = lock.foreground.generation) ∧ before.foregroundEpoch = lock.foreground.epoch := by
    simpa only [Snapshot.matchesForeground, Bool.and_eq_true, decide_eq_true_eq] using shown
  have owns := (within.run next_reliable reliable).truthful.invariant.1.owns held
  rw [keyed]
  refine tells_bind (onward_request _ known) fun _ asked after => ?_
  refine tells_poll polls ?_
  intro snapshot from' later result longer ends told' judged
  have judged := unlessFailing_spec judged
  obtain ⟨done, rfl⟩ := once_spec judged
  simp only [Bool.and_eq_true, decide_eq_true_eq] at done
  obtain ⟨record, member, newer, owner, unlocks, reached, success⟩ := submitted_spec done.2
  obtain ⟨begun, event, starts, part, ⟨events, since⟩, made⟩ :=
    submitted_made reliable within recent told' (after.trans longer) member newer
  have there : (begun.foldl next first).Reliable := Runs.run_invariant next_reliable begun reliable
  obtain ⟨copied, ⟨panelLock, on, of⟩, off, shows⟩ := made.unlocked there.truthful.invariant.1 unlocks success
  refine ⟨⟨begun, event, panelLock, record.surfaceSequence, starts, part, reached, on, ?_, of ▸ copied, off, of ▸ shows⟩, ?_⟩
  · -- the lock that was released is of the lease, so it is of the epoch
    obtain ⟨hostLock, hosted, epochs, leases⟩ := there.truthful.invariant.1.hosted on
    have sole := (Runs.run_invariant next_owns events owns).sole
    rw [← since] at sole
    rw [← epochs, ← dated]
    refine (sole hostLock hosted).mpr (leases.trans (of.trans (owner.trans ?_)))
    rw [generation, epoch]
    rfl
  · obtain ⟨s, within, unlocked⟩ := told'.unlocked
    have there : s.Reliable := within.run next_reliable reliable
    have none : s.host.lock = none := by
      rw [done.1] at unlocked
      cases held : s.host.lock with
      | none => rfl
      | some lock =>
        rw [held] at unlocked
        exact absurd unlocked.symm (there.dated lock held)
    exact ⟨s, within.wider (told.1.trans (after.trans longer)) List.prefix_rfl, none,
      (there.truthful.invariant.1.unlocked none).1⟩

end Call

/-! ## Acknowledged calls -/

namespace Sample

/-- An application has committed its first frame. -/
def registered : List HostEvent := [.connect, .register 0 1 2 2 .rgb565 ⟨0, none⟩, .activateClient 0, .markCommit 0]

/-- A call that meets the worker in one of its steps. -/
def working (before after : Nat) (works : List HostEvent) : List Exchange :=
  List.replicate before ⟨[], none⟩ ++ ⟨works, none⟩ :: List.replicate after ⟨[], none⟩

end Sample

section
variable (shm : Nat → SharedSurface) (backend : PanelBackend) (events : List HostEvent)

/-- When `show_lock` ends well the panel was, at a moment of the call, frozen under exactly this
    lock, on the screen of the event that took it by copying the whole surface of its lease; from
    then on its screen stayed, unless a cancellation of this very lock was carried out meanwhile. -/
theorem show_lock_acknowledged (polls : Nat) (key : Int) (generation epoch sleepEpoch : Nat) (answers : List Exchange)
    (ok : ((Call.showLock polls key generation epoch sleepEpoch).trace answers
      (events.foldl next (start shm backend))).result = some (.ok ())) :
    let first := events.foldl next (start shm backend)
    let call := (Call.showLock polls key generation epoch sleepEpoch).trace answers first
    ∃ before after lock, call.left.flatten = before ++ after ∧
      (before.foldl next first).LockedOn ⟨key, generation, epoch⟩ sleepEpoch lock ∧
      (∃ earlier event, earlier ++ [event] <+: events ++ before ∧
        (earlier.foldl next (start shm backend)).TookLock event lock ∧
        SameScreen ((earlier.foldl next (start shm backend)).next event).worker (before.foldl next first).worker) ∧
      (SameScreen (before.foldl next first).worker call.state.worker ∨
        ∃ later event, later ++ [event] <+: after ∧ (later.foldl next (before.foldl next first)).Released event lock) := by
  intro first call
  have reliable : first.Reliable := Runs.run_invariant next_reliable events (start_reliable shm backend)
  have tells : Call.Tells first _ _ [] := Call.tells_showLock reliable polls key generation epoch sleepEpoch
  obtain ⟨_, lock, ⟨before, _, ⟨after, split⟩, rfl⟩, locked⟩ := tells.sound ok
  have held : ((events ++ before).foldl next (start shm backend)).worker.lock = some lock := by
    rw [List.foldl_append]
    exact locked.held
  have taken := lock_taken (start_truthful shm backend) rfl (events ++ before) held
  rw [List.foldl_append] at taken
  refine ⟨before, after, lock, split.symm, locked, taken, ?_⟩
  have there : (before.foldl next first).Reliable := Runs.run_invariant next_reliable before reliable
  have state : call.state = after.foldl next (before.foldl next first) := by
    rw [← List.foldl_append, split]
    exact tells.state answers
  rw [state]
  exact screen_until_released there.truthful locked.held after

open Sample in
theorem show_lock_acknowledged_registered :
    let first := registered.foldl next (start (fun _ => tile) glass)
    let call := (Call.showLock 0 1 1 1 1).trace (working 19 13 [.work 0 (some 1), .work 1 (some 2)]) first
    ∃ before after lock, call.left.flatten = before ++ after ∧ (before.foldl next first).LockedOn ⟨1, 1, 1⟩ 1 lock ∧
      (∃ earlier event, earlier ++ [event] <+: registered ++ before ∧
        (earlier.foldl next (start (fun _ => tile) glass)).TookLock event lock ∧
        SameScreen ((earlier.foldl next (start (fun _ => tile) glass)).next event).worker (before.foldl next first).worker) ∧
      (SameScreen (before.foldl next first).worker call.state.worker ∨
        ∃ later event, later ++ [event] <+: after ∧ (later.foldl next (before.foldl next first)).Released event lock) :=
  show_lock_acknowledged _ _ _ _ _ _ _ _ _ (by decide +kernel)

/-- When `activate_foreground` ends well the panel took, during the call, the whole surface of the
    lease and showed it; and if ink was asked for, ink was enabled for the lease while it showed. -/
theorem activate_foreground_acknowledged (polls : Nat) (key : Int) (generation epoch : Nat) (inkEnabled fullRefresh : Bool)
    (answers : List Exchange)
    (ok : ((Call.activateForeground polls key generation epoch inkEnabled fullRefresh).trace answers
      (events.foldl next (start shm backend))).result = some (.ok ())) :
    let first := events.foldl next (start shm backend)
    let call := (Call.activateForeground polls key generation epoch inkEnabled fullRefresh).trace answers first
    Call.SwitchedTo first [] call.left ⟨key, generation, epoch⟩ ∧
      (inkEnabled = true → Call.InkedFor first [] call.left ⟨key, generation, epoch⟩) :=
  (Call.tells_activateForeground (Runs.run_invariant next_reliable events (start_reliable shm backend)) polls key
    generation epoch inkEnabled fullRefresh).sound ok

open Sample in
theorem activate_foreground_acknowledged_registered :
    let first := (registered ++ [HostEvent.prepareForeground 1 1 1]).foldl next (start (fun _ => tile) glass)
    let call := (Call.activateForeground 0 1 1 1 true true).trace
      (working 19 13 [.work 0 (some 1), .work 1 (some 2)]) first
    Call.SwitchedTo first [] call.left ⟨1, 1, 1⟩ ∧ (true = true → Call.InkedFor first [] call.left ⟨1, 1, 1⟩) :=
  activate_foreground_acknowledged _ _ _ _ _ _ _ _ _ _ (by decide +kernel)

/-- When `set_foreground` ends well the panel took, during the call, the whole surface of the lease
    and showed it. -/
theorem set_foreground_acknowledged (polls : Nat) (key : Int) (generation epoch : Nat) (fullRefresh : Bool)
    (answers : List Exchange)
    (ok : ((Call.setForeground polls key generation epoch fullRefresh).trace answers
      (events.foldl next (start shm backend))).result = some (.ok ())) :
    let first := events.foldl next (start shm backend)
    let call := (Call.setForeground polls key generation epoch fullRefresh).trace answers first
    Call.SwitchedTo first [] call.left ⟨key, generation, epoch⟩ :=
  (Call.tells_setForeground (Runs.run_invariant next_reliable events (start_reliable shm backend)) polls key
    generation epoch fullRefresh).sound ok

/-- When `clear_foreground` ends well the panel showed nothing at a moment of the call. -/
theorem clear_foreground_acknowledged (polls : Nat) (answers : List Exchange)
    (ok : ((Call.clearForeground polls).trace answers (events.foldl next (start shm backend))).result = some (.ok ())) :
    let first := events.foldl next (start shm backend)
    let call := (Call.clearForeground polls).trace answers first
    ∃ s, Within first [] call.left s ∧ s.worker.foreground = none :=
  (Call.tells_clearForeground (Runs.run_invariant next_reliable events (start_reliable shm backend)) polls).sound ok

/-- When `configure_ink` ends well the panel showed the lease at a moment of the call, and if ink was
    asked for, ink was enabled for the lease while it showed, unless the worker had ended. -/
theorem configure_ink_acknowledged (key : Int) (generation epoch : Nat) (enabled : Bool) (answers : List Exchange)
    (ok : ((Call.configureInk key generation epoch enabled).trace answers
      (events.foldl next (start shm backend))).result = some (.ok ())) :
    let first := events.foldl next (start shm backend)
    let call := (Call.configureInk key generation epoch enabled).trace answers first
    (∃ s, Within first [] call.left s ∧ s.worker.foreground = some ⟨key, generation, epoch⟩) ∧
      (enabled = true → ∃ s, Within first [] call.left s ∧ (s.running = true → s.Inked ⟨key, generation, epoch⟩)) :=
  (Call.tells_configureInk (Runs.run_invariant next_reliable events (start_reliable shm backend)) key generation
    epoch enabled).sound ok

/-- When `cancel_lock` ends well the panel released, during the call, exactly the lock of the epoch,
    and took in its place the whole surface of the lock's lease from the commit that was asked for
    or a later one; and at a moment of the call neither the host nor the panel was locked. -/
theorem cancel_lock_acknowledged (polls sleepEpoch replacementSurfaceSequence : Nat) (answers : List Exchange)
    (ok : ((Call.cancelLock polls sleepEpoch replacementSurfaceSequence).trace answers
      (events.foldl next (start shm backend))).result = some (.ok ())) :
    let first := events.foldl next (start shm backend)
    let call := (Call.cancelLock polls sleepEpoch replacementSurfaceSequence).trace answers first
    Call.ReleasedDuring first [] call.left sleepEpoch replacementSurfaceSequence ∧
      ∃ s, Within first [] call.left s ∧ s.host.lock = none ∧ s.worker.lock = none :=
  (Call.tells_cancelLock (Runs.run_invariant next_reliable events (start_reliable shm backend)) polls sleepEpoch
    replacementSurfaceSequence).sound ok

open Sample in
theorem cancel_lock_acknowledged_locking :
    let first := (locking ++ [HostEvent.markCommit 0]).foldl next (start (fun _ => tile) glass)
    let call := (Call.cancelLock 0 1 2).trace (working 17 15 [.work 2 (some 3), .work 3 (some 4)]) first
    Call.ReleasedDuring first [] call.left 1 2 ∧
      ∃ s, Within first [] call.left s ∧ s.host.lock = none ∧ s.worker.lock = none :=
  cancel_lock_acknowledged _ _ _ _ _ _ _ (by decide +kernel)

end
end Remagic.Display
