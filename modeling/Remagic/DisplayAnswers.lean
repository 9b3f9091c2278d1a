import Remagic.DisplayClient

/-!
# The host's answers are true

When a call of the daemon ends well, what it asked for was so at a moment of the call:
each field of the snapshot that ended it was true when it was read, and the fields that
belong together do so at one moment, since only the other threads go on between them.
-/

namespace Remagic.Display
open Tasks DisplayHost HostState

/-! ## The other threads -/

namespace HostState
variable {s t : HostState}

theorem requestSurfaceFullRefresh_lock (key : Int) : ((requestSurfaceFullRefresh key).run s).2.lock = s.lock := by
  have spec : Fallible.AllOrNothing s (requestSurfaceFullRefresh key) s fun _ t => t.lock = s.lock := by
    unfold requestSurfaceFullRefresh
    apply Fallible.allOrNothing_get_bind
    cases s.visibleLease key with
    | none => exact (rfl : s.lock = s.lock)
    | some lease => exact enqueuePanel_last rfl rfl
  rcases spec.cases with ⟨error, failed⟩ | ⟨result, after, ended, same⟩
  · rw [failed]
  · rw [ended]
    exact same

theorem damage_lock (key : Int) (rect : Rect) (intent : RefreshIntent) :
    ((damage key rect intent).run s).2.lock = s.lock := by
  unfold damage
  show Fallible.Ends (get >>= _) s fun _ t => t.lock = s.lock
  apply Fallible.ends_get_bind
  cases s.visibleLease key with
  | none => exact (rfl : s.lock = s.lock)
  | some lease =>
    rcases trySend_spec s.panel (.damage lease rect intent) with ⟨error, refused⟩ | ⟨_, accepted⟩
    · simp only [refused]
      by_cases full : error.kind = .wouldBlock
      · simp only [full, if_true]
        exact (rfl : s.lock = s.lock)
      · simp only [full, if_false]
        exact (rfl : s.lock = s.lock)
    · simp only [accepted]
      exact (rfl : s.lock = s.lock)

theorem Departs.lock {client : Nat} {key : Int} (departs : Departs s client key t) : t.lock = s.lock := by
  have dropped : ∀ told, (s.departed key told).lock = s.lock := by
    intro told
    cases told <;> rfl
  have fenced : ∀ h : HostState, h.fenceInputContacts.lock = h.lock := by
    intro h
    obtain ⟨_, _, unmoved⟩ := fence_unmoved h
    exact unmoved.lock
  cases departs with
  | absent unregistered => rfl
  | shared entry clients registered others kept => rfl
  | hidden entry told registered last stays => exact dropped told
  | stuck entry told lease registered last clears => exact (fenced _).trans (dropped told)
  | cleared entry told lease registered last clears =>
    exact (fenced _).trans ((fenced (s.departed key told)).trans (dropped told))

end HostState

namespace DisplayHost
variable {s : DisplayHost}

theorem exclusively_lock {step : DisplayHost → DisplayHost} (free : (step s).host.lock = s.host.lock) :
    (s.exclusively step).host.lock = s.host.lock := by
  unfold exclusively
  split
  · rfl
  · exact free

theorem withKey_lock {client : Nat} {step : DisplayHost → Int → DisplayHost}
    (keyed : ∀ key, (step s key).host.lock = s.host.lock) : (s.withKey client step).host.lock = s.host.lock := by
  unfold withKey
  split
  · rfl
  · exact keyed _

theorem Quiet.lock {t : DisplayHost} (quiet : Quiet s t) : t.host.lock = s.host.lock := by
  obtain ⟨_, _, _, _, unmoved⟩ := quiet
  exact unmoved.lock

/-- Only control requests lock the display or unlock it. -/
theorem next_lock (s : DisplayHost) (event : HostEvent) (other : event.control = false) :
    (s.next event).host.lock = s.host.lock := by
  cases event with
  | connect => rfl
  | register client key width height format creation => exact (register_quiet client key width height format creation).lock
  | activateClient client => exact (activateClient_quiet client).lock
  | replyFailed client =>
    simp only [next, replyFailed]
    split
    · exact (abort_quiet client _).lock
    · rfl
  | draw shmKey bytes => rfl
  | markCommit client =>
    simp only [next]
    exact withKey_lock fun key => (updateSurface_quiet key _).lock
  | damage client rect =>
    simp only [next]
    refine withKey_lock fun key => exclusively_lock ?_
    unfold damage perform
    split
    · rfl
    rename_i entry _
    have kept := damage_lock (s := s.host) key (rect.getD (s.shm entry.shmKey).fullRect) (damageIntent (s.shm entry.shmKey))
    dsimp only at kept ⊢
    rcases run : (HostState.damage key (rect.getD (s.shm entry.shmKey).fullRect) (damageIntent (s.shm entry.shmKey))).run s.host
      with ⟨error | (_ | lease), host⟩ <;> (rw [run] at kept; exact kept)
  | setRefreshMode client mode =>
    simp only [next]
    exact withKey_lock fun key => (updateSurface_quiet key _).lock
  | requestSurfaceFullRefresh client =>
    simp only [next]
    exact withKey_lock fun key => exclusively_lock (requestSurfaceFullRefresh_lock key)
  | disconnect client =>
    simp only [next, disconnect]
    split
    · rfl
    · exact exclusively_lock (unregister_departs client _).lock
    · rfl
  | receive client => rfl
  | capture frame => exact (capture_quiet frame).lock
  | dispatchPen =>
    simp only [next]
    refine exclusively_lock ?_
    unfold dispatchPen
    split
    · rfl
    · exact (dispatch_quiet _).lock
  | dispatchTouch =>
    simp only [next]
    refine exclusively_lock ?_
    unfold dispatchTouch
    split
    · rfl
    · exact (dispatch_quiet _).lock
  | work now marker =>
    simp only [next]
    exact (whileRunning_kept (work_kept now marker)).lock
  | flushDeferred now marker =>
    simp only [next]
    exact (whileRunning_kept (flush_kept _)).lock
  | flushDeadlines now marker =>
    simp only [next]
    exact (whileRunning_kept (flush_kept _)).lock
  | _ => cases other

end DisplayHost

/-! ## The moments of a call -/

/-- The host after what the steps of a call left. -/
def ran (first : DisplayHost) (log : List (List HostEvent)) : DisplayHost := log.flatten.foldl next first

/-- The host was in this state at a moment between the ends of two logs. -/
def Within (first : DisplayHost) (log later : List (List HostEvent)) (s : DisplayHost) : Prop :=
  ∃ before, log.flatten <+: before ∧ before <+: later.flatten ∧ s = before.foldl next first

section
variable {first s : DisplayHost} {log later mid : List (List HostEvent)}

theorem ran_append (log more : List (List HostEvent)) : ran first (log ++ more) = ran (ran first log) more := by
  unfold ran
  rw [List.flatten_append, List.foldl_append]

theorem flatten_mono (shorter : log <+: later) : log.flatten <+: later.flatten := by
  obtain ⟨more, rfl⟩ := shorter
  exact ⟨more.flatten, List.flatten_append.symm⟩

theorem within_ran (after : log <+: mid) (before : mid <+: later) : Within first log later (ran first mid) :=
  ⟨mid.flatten, flatten_mono after, flatten_mono before, rfl⟩

theorem Within.wider {earlier longer : List (List HostEvent)} (within : Within first log later s) (after : earlier <+: log)
    (before : later <+: longer) : Within first earlier longer s := by
  obtain ⟨events, starts, ends, rfl⟩ := within
  exact ⟨events, (flatten_mono after).trans starts, ends.trans (flatten_mono before), rfl⟩

/-- A moment after a log is reached from the state at the log's end. -/
theorem Within.since {earlier : List (List HostEvent)} (within : Within first log later s) (before : earlier <+: log) :
    ∃ events : List HostEvent, s = events.foldl next (ran first earlier) := by
  obtain ⟨reached, starts, _, rfl⟩ := within
  obtain ⟨events, rfl⟩ := (flatten_mono before).trans starts
  exact ⟨events, by rw [List.foldl_append]; rfl⟩

/-- A moment of the call is a state of a run from its start. -/
theorem Within.run {Invariant : DisplayHost → Prop} (within : Within first log later s)
    (step : ∀ s event, Invariant s → Invariant (s.next event)) (holds : Invariant first) : Invariant s := by
  obtain ⟨events, _, _, rfl⟩ := within
  exact Runs.run_invariant step events holds

theorem ran_lock {others : List HostEvent} (apart : ∀ event ∈ others, event.control = false) :
    (ran first (log ++ [others])).host.lock = (ran first log).host.lock := by
  rw [ran_append]
  generalize ran first log = s
  simp only [ran, List.flatten_cons, List.flatten_nil, List.append_nil]
  induction others generalizing s with
  | nil => rfl
  | cons event rest ih =>
    rw [List.foldl_cons, ih (fun other member => apart other (List.mem_cons_of_mem _ member)) (s.next event)]
    exact next_lock s event (apart event List.mem_cons_self)

end

/-! ## The rules of a call -/

namespace Call
variable {α β : Type} {first : DisplayHost} {log : List (List HostEvent)}

/-- If the call ends well it ends where `post` holds of its result. -/
def Tells (first : DisplayHost) (post : α → List (List HostEvent) → Prop) (call : Call α) (log : List (List HostEvent)) :
    Prop :=
  Job.Keeps (fun _ => True) (fun log s => s = ran first log) (fun _ _ _ => True) (fun result log _ => post result log)
    call log (ran first log)

variable {post : α → List (List HostEvent) → Prop}

theorem Tells.sound {call : Call α} (tells : Tells first post call []) {answers : List Exchange} {result : α}
    (ok : (call.trace answers first).result = some (.ok result)) : post result (call.trace answers first).left :=
  Job.Keeps.ends tells (fun _ _ => trivial) ok

theorem Tells.state {call : Call α} (tells : Tells first post call []) (answers : List Exchange) :
    (call.trace answers first).state = ran first (call.trace answers first).left :=
  Job.Keeps.stands tells fun _ _ => trivial

theorem Tells.weaken {other : α → List (List HostEvent) → Prop} {call : Call α} (tells : Tells first post call log)
    (ends : ∀ result log, post result log → other result log) : Tells first other call log :=
  Job.Keeps.weaken tells (fun _ _ stands => stands) (fun _ _ _ _ failed => failed) fun result log _ _ => ends result log

theorem tells_pure {result : α} (ends : post result log) : Tells first post (pure result) log :=
  Job.keeps_pure rfl ends

theorem tells_throw {message : String} : Tells first post (throw message) log := Job.keeps_throw rfl trivial

theorem tells_bind {M : β → List (List HostEvent) → Prop} {call : Call β} {next : β → Call α}
    (starts : Tells first M call log) (goes : ∀ result log, M result log → Tells first post (next result) log) :
    Tells first post (call >>= next) log := by
  refine Job.keeps_bind starts ?_
  rintro result log _ rfl told
  exact goes result log told

theorem tells_turn {events : Exchange → DisplayHost → List HostEvent} {result : Exchange → DisplayHost → Except String α}
    (brings : ∀ answer value, result answer (ran first log) = .ok value →
      post value (log ++ [events answer (ran first log)])) : Tells first post (turn events result) log := by
  refine ⟨rfl, ?_⟩
  intro _ answer _
  have state : (events answer (ran first log)).foldl next (ran first log) =
      ran first (log ++ [events answer (ran first log)]) := by
    rw [ran_append]
    simp [ran]
  refine ⟨state, ?_⟩
  dsimp only
  cases brought : result answer (ran first log) with
  | error error => trivial
  | ok value => exact brings answer value brought

/-- Any call only adds to what it leaves. -/
def Onward (first : DisplayHost) (call : Call α) : Prop := ∀ log, Tells first (fun _ later => log <+: later) call log

theorem onward_bind {call : Call β} {next : β → Call α} (starts : Onward first call)
    (goes : ∀ result, Onward first (next result)) : Onward first (call >>= next) := by
  intro log
  refine tells_bind (starts log) ?_
  intro result mid shorter
  exact (goes result mid).weaken fun _ _ longer => shorter.trans longer

theorem onward_turn (events : Exchange → DisplayHost → List HostEvent) (result : Exchange → DisplayHost → Except String α) :
    Onward first (turn events result) := fun log => tells_turn fun _ _ _ => List.prefix_append log _

theorem onward_pure (result : α) : Onward first (pure result : Call α) := fun _ => tells_pure List.prefix_rfl

theorem onward_throw (message : String) : Onward first (throw message : Call α) := fun _ => tells_throw

theorem onward_request (event : HostEvent) : Onward first (request event) := by
  refine onward_bind (onward_turn _ _) fun _ => onward_bind (onward_turn _ _) fun _ => onward_bind (onward_turn _ _)
    fun dispatched => onward_bind (onward_turn _ _) fun waited => onward_bind (onward_turn _ _) fun _ => ?_
  cases dispatched *> waited with
  | ok _ => exact onward_pure ()
  | error error => exact onward_throw _

/-! ## What a snapshot tells -/

/-- One field, read after the other threads went on. -/
theorem tells_look (read : DisplayHost → α) :
    Tells first (fun value later => ∃ others : List HostEvent, (∀ event ∈ others, event.control = false) ∧
      later = log ++ [others] ∧ value = read (ran first later)) (look read) log := by
  refine tells_turn ?_
  rintro answer value brought
  cases brought
  refine ⟨answer.others, ?_, rfl, ?_⟩
  · intro event member
    simpa [Exchange.others] using (List.mem_filter.mp member).2
  · rw [ran_append]
    simp [ran]

/-- What a snapshot says was so at moments of the call that made it. -/
structure Told (first : DisplayHost) (log later : List (List HostEvent)) (snapshot : Snapshot) : Prop where
  shows : ∀ key generation epoch, snapshot.matchesForeground key generation epoch = true →
    ∃ s, Within first log later s ∧ s.worker.telemetry.committedForeground = some ⟨key, generation, epoch⟩
  hidden : snapshot.foregroundKey = none →
    ∃ s, Within first log later s ∧ s.worker.telemetry.committedForeground = none
  inked : snapshot.inkEnabled = true → ∀ key generation epoch,
    snapshot.matchesForeground key generation epoch = true →
    ∃ s, Within first log later s ∧ s.worker.telemetry.committedInk = some (⟨key, generation, epoch⟩, true)
  locked : snapshot.lockCommitted = true → ∃ s lock, Within first log later s ∧ s.host.lock = some lock ∧
    lock.sleepEpoch = snapshot.lockEpoch ∧ s.worker.telemetry.committedLockEpoch = snapshot.lockEpoch ∧
    snapshot.matchesForeground lock.foreground.key lock.foreground.generation lock.foreground.epoch = true
  unlocked : ∃ s, Within first log later s ∧ snapshot.lockEpoch = (s.host.lock.map LockLease.sleepEpoch).getD 0
  submissions : ∃ s, Within first log later s ∧ snapshot.recentSubmissions = s.worker.telemetry.recentSubmissions ∧
    (snapshot.lockCommitted = true → ∃ lock, s.host.lock = some lock ∧ lock.sleepEpoch = snapshot.lockEpoch ∧
      snapshot.matchesForeground lock.foreground.key lock.foreground.generation lock.foreground.epoch = true)

section
variable {later : List (List HostEvent)} {requested : Option ForegroundLease} {failures : Nat}
  {presented : Option (Int × Nat)} {surfaces : Int → Option Unit} {sequences : Int → Option Nat}
  {signatures : Int → Option UInt64} {atLock atForeground atInk atEpoch atHistory : DisplayHost}

variable {lockRead : Option LockLease} {shown : Option PanelLease} {inkRead : Option (PanelLease × Bool)} {epochRead : Nat}
  {submissionsRead : List SubmissionRecord}

theorem matches_of {key : Int} {generation epoch : Nat} :
    (Snapshot.of requested lockRead shown failures presented surfaces sequences signatures inkRead epochRead
      submissionsRead).matchesForeground key generation epoch = true ↔ shown = some ⟨key, generation, epoch⟩ := by
  cases shown with
  | none => simp [Snapshot.matchesForeground, Snapshot.of]
  | some lease =>
    obtain ⟨k, g, e⟩ := lease
    simp [Snapshot.matchesForeground, Snapshot.of, and_assoc]

/-- The snapshot tells the truth if the lock did not change while it was read. -/
theorem told_of (lock : Within first log later atLock) (foreground : Within first log later atForeground)
    (ink : Within first log later atInk) (epoch : Within first log later atEpoch)
    (history : Within first log later atHistory) (same : atEpoch.host.lock = atLock.host.lock)
    (still : atHistory.host.lock = atEpoch.host.lock) :
    Told first log later (.of requested atLock.host.lock atForeground.worker.telemetry.committedForeground failures
      presented surfaces sequences signatures atInk.worker.telemetry.committedInk
      atEpoch.worker.telemetry.committedLockEpoch atHistory.worker.telemetry.recentSubmissions) := by
  generalize read : Snapshot.of requested atLock.host.lock atForeground.worker.telemetry.committedForeground failures
    presented surfaces sequences signatures atInk.worker.telemetry.committedInk
    atEpoch.worker.telemetry.committedLockEpoch atHistory.worker.telemetry.recentSubmissions = snapshot
  have locked : snapshot.lockCommitted = true → ∃ lock, atLock.host.lock = some lock ∧
      lock.sleepEpoch = snapshot.lockEpoch ∧ atEpoch.worker.telemetry.committedLockEpoch = snapshot.lockEpoch ∧
      snapshot.matchesForeground lock.foreground.key lock.foreground.generation lock.foreground.epoch = true := by
    intro committed
    subst read
    cases held : atLock.host.lock with
    | none => simp [Snapshot.of, held] at committed
    | some lease =>
      simp only [Snapshot.of, held, Option.any_some, Bool.and_eq_true, decide_eq_true_eq] at committed
      exact ⟨lease, rfl, rfl, committed.1.1, matches_of.mpr committed.1.2⟩
  constructor
  · intro key generation epoch shown
    subst read
    exact ⟨atForeground, foreground, matches_of.mp shown⟩
  · intro hidden
    subst read
    exact ⟨atForeground, foreground, Option.map_eq_none_iff.mp hidden⟩
  · intro inked key generation epoch shown
    subst read
    refine ⟨atInk, ink, ?_⟩
    simp only [Snapshot.of, matches_of.mp shown, Option.any_some] at inked
    cases requested with
    | none => cases inked
    | some lease =>
      simp only [Option.any_some, Bool.and_eq_true, decide_eq_true_eq] at inked
      exact inked.2
  · intro committed
    obtain ⟨lock, held, dated, epoch', shown⟩ := locked committed
    exact ⟨atEpoch, lock, epoch, same.trans held, dated, epoch', shown⟩
  · subst read
    exact ⟨atLock, lock, rfl⟩
  · refine ⟨atHistory, history, read ▸ rfl, ?_⟩
    intro committed
    obtain ⟨lock, held, dated, _, shown⟩ := locked committed
    exact ⟨lock, still.trans (same.trans held), dated, shown⟩

end

theorem Told.wider {log later earlier longer : List (List HostEvent)} {snapshot : Snapshot}
    (told : Told first log later snapshot) (after : earlier <+: log) (before : later <+: longer) :
    Told first earlier longer snapshot := by
  have wider : ∀ {holds : DisplayHost → Prop}, (∃ s, Within first log later s ∧ holds s) →
      ∃ s, Within first earlier longer s ∧ holds s := by
    rintro holds ⟨s, within, so⟩
    exact ⟨s, within.wider after before, so⟩
  constructor
  · exact fun key generation epoch shown => wider (told.shows key generation epoch shown)
  · exact fun hidden => wider (told.hidden hidden)
  · exact fun inked key generation epoch shown => wider (told.inked inked key generation epoch shown)
  · intro committed
    obtain ⟨s, lock, within, so⟩ := told.locked committed
    exact ⟨s, lock, within.wider after before, so⟩
  · exact wider told.unlocked
  · exact wider told.submissions

theorem tells_snapshot : Tells first (fun snapshot later => log <+: later ∧ Told first log later snapshot) snapshot log := by
  unfold snapshot
  refine tells_bind (tells_look _) ?_
  rintro requested _ ⟨e1, o1, rfl, rfl⟩
  refine tells_bind (tells_look _) ?_
  rintro lock _ ⟨e2, o2, rfl, rfl⟩
  refine tells_bind (tells_look _) ?_
  rintro foreground _ ⟨e3, o3, rfl, rfl⟩
  refine tells_bind (tells_look _) ?_
  rintro failures _ ⟨e4, o4, rfl, rfl⟩
  refine tells_bind (tells_look _) ?_
  rintro presented _ ⟨e5, o5, rfl, rfl⟩
  refine tells_bind (tells_look _) ?_
  rintro surfaces _ ⟨e6, o6, rfl, rfl⟩
  refine tells_bind (tells_look _) ?_
  rintro sequences _ ⟨e7, o7, rfl, rfl⟩
  refine tells_bind (tells_look _) ?_
  rintro signatures _ ⟨e8, o8, rfl, rfl⟩
  refine tells_bind (tells_look _) ?_
  rintro ink _ ⟨e9, o9, rfl, rfl⟩
  refine tells_bind (tells_look _) ?_
  rintro lockEpoch _ ⟨e10, o10, rfl, rfl⟩
  refine tells_bind (tells_look _) ?_
  rintro submissions _ ⟨e11, o11, rfl, rfl⟩
  refine tells_pure ⟨?_, ?_⟩
  · simp only [List.append_assoc]
    exact List.prefix_append log _
  refine told_of (within_ran ?_ ?_) (within_ran ?_ ?_) (within_ran ?_ ?_) (within_ran ?_ ?_) (within_ran ?_ ?_) ?_ ?_
  case refine_11 =>
    rw [ran_lock o10, ran_lock o9, ran_lock o8, ran_lock o7, ran_lock o6, ran_lock o5, ran_lock o4, ran_lock o3]
  case refine_12 => exact ran_lock o11
  all_goals simp

theorem tells_status : Tells first (fun snapshot later => log <+: later ∧ Told first log later snapshot) status log := by
  unfold status
  refine tells_bind (onward_turn _ _ log) fun _ carried asked => ?_
  refine tells_bind (onward_turn _ _ carried) fun _ taken free => ?_
  refine tells_bind tells_snapshot fun snapshot read told => ?_
  refine tells_bind (onward_turn _ _ read) fun _ later replied => ?_
  have before : log <+: taken := asked.trans free
  exact tells_pure ⟨before.trans (told.1.trans replied), told.2.wider before replied⟩

/-! ## Requests and polls -/

/-- A request that is answered well was carried out at a moment of the call. -/
theorem tells_request (event : HostEvent) :
    Tells first (fun _ later => ∃ mid, log <+: mid ∧ mid ++ [[event]] <+: later ∧
      (ran first mid).foregroundOps = none ∧ reply (ran first mid) event = .ok ()) (request event) log := by
  unfold request
  refine tells_bind (onward_turn _ _ log) fun _ carried asked => ?_
  refine tells_bind (M := fun _ later => later = carried ++ [[]] ∧ (ran first carried).foregroundOps = none)
    (tells_turn ?_) ?_
  · intro answer value brought
    refine ⟨rfl, ?_⟩
    by_contra busy
    rw [if_pos (Option.isSome_iff_ne_none.mpr busy)] at brought
    cases brought
  rintro _ _ ⟨rfl, free⟩
  refine tells_bind (M := fun result later => later = carried ++ [[]] ++ [[event]] ∧
    result = reply (ran first (carried ++ [[]])) event) (tells_turn ?_) ?_
  · rintro answer value brought
    cases brought
    exact ⟨rfl, rfl⟩
  rintro _ _ ⟨rfl, rfl⟩
  refine tells_bind (onward_turn _ _ _) fun waited settled dispatched => ?_
  refine tells_bind (onward_turn _ _ settled) fun _ later replied => ?_
  cases replied' : reply (ran first (carried ++ [[]])) event with
  | error error => exact tells_throw
  | ok _ =>
    cases waited with
    | error error => exact tells_throw
    | ok _ =>
      refine tells_pure ⟨carried ++ [[]], asked.trans (List.prefix_append _ _), dispatched.trans replied, ?_, replied'⟩
      rw [ran_append]
      exact free

/-- A poll that ends well ends with a snapshot that decides so. -/
theorem tells_poll {judge : Snapshot → Verdict α} {late : Snapshot → String} (polls : Nat)
    (decides : ∀ snapshot mid later result, log <+: mid → mid <+: later → Told first mid later snapshot →
      judge snapshot = .ok (some result) → post result later) : Tells first post (poll judge late polls) log := by
  have judged : ∀ again snapshot mid later, log <+: mid → mid <+: later → Told first mid later snapshot →
      Tells first post again later → Tells first post (obey again (judge snapshot)) later := by
    intro again snapshot mid later shorter longer told goes
    cases verdict : judge snapshot with
    | error message => exact tells_throw
    | ok outcome =>
      cases outcome with
      | none => exact goes
      | some result => exact tells_pure (decides snapshot mid later result shorter longer told verdict)
  induction polls generalizing log with
  | zero => exact tells_bind tells_status fun snapshot later told => judged _ snapshot log later List.prefix_rfl told.1 told.2 tells_throw
  | succ polls ih =>
    refine tells_bind tells_status fun snapshot later told => judged _ snapshot log later List.prefix_rfl told.1 told.2 ?_
    refine ih ?_ ?_
    · intro snapshot mid later' result shorter
      exact decides snapshot mid later' result (told.1.trans shorter)
    · intro again snapshot mid later' shorter
      exact judged again snapshot mid later' (told.1.trans shorter)

end Call
end Remagic.Display
