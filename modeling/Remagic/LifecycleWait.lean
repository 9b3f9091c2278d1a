import Remagic.LifecycleSession

/-!
# Waiting for an application to be ready

The daemon polls the status file until it shows `ready` or a failure under the token that
it waits for, or until its deadline. The application goes on publishing meanwhile.
-/

namespace Remagic.Lifecycle
open Supervisor
variable {Payload : Type}

/-- Where `wait_status` is: before the metadata, between them and the contents, or before
    the look at the deadline. -/
inductive WaitPhase where
  | inspecting
  | reading
  | checking
  deriving DecidableEq

inductive WaitOutcome where
  | returned (result : Except (String × String) LifecycleStatus)
  | timedOut
  deriving DecidableEq

/-- A session, and `wait_event` of the daemon for it. -/
structure Wait (Payload : Type) where
  session : Session Payload
  phase : WaitPhase := .inspecting
  /-- The deadline has passed. -/
  late : Bool := false
  outcome : Option WaitOutcome := none
  /-- Ghost: the first event of the token that decides the wait, of those published before
      the deadline. -/
  first : Option (LifecycleEvent Payload) := none

inductive WaitMove (Payload : Type) where
  | session (move : SessionMove Payload)
  | inspect
  | read
  | check
  | expire

namespace LifecycleEvent

def decides : LifecycleEvent Payload → Bool
  | ready _ | failed .. => true
  | _ => false

/-- The two events decide a wait alike. -/
def Alike : LifecycleEvent Payload → LifecycleEvent Payload → Prop
  | ready _, ready _ => True
  | failed stage message _, failed stage' message' _ => stage = stage' ∧ message = message'
  | _, _ => False

instance Alike.decide : ∀ event other : LifecycleEvent Payload, Decidable (Alike event other)
  | ready _, other => match other with
    | ready _ => isTrue trivial
    | backgroundReady .. | stateSaved _ | shutdownComplete _ | failed .. | notification .. => isFalse id
  | failed stage message _, other => match other with
    | failed stage' message' _ =>
      @instDecidableAnd _ _ (instDecidableEqLifecycleStage stage stage') (instDecidableEqString message message')
    | ready _ | backgroundReady .. | stateSaved _ | shutdownComplete _ | notification .. => isFalse id
  | backgroundReady .., _ | stateSaved _, _ | shutdownComplete _, _ | notification .., _ => isFalse id

/-- What a wait that `event` decides ends in. -/
def Answered : LifecycleEvent Payload → WaitOutcome → Prop
  | ready _, .returned (.ok _) => True
  | failed stage message _, .returned (.error failure) => failure = (stage.text, message)
  | _, _ => False

end LifecycleEvent

namespace Wait
variable (payloadBytes : Payload → List UInt8) (parse : List UInt8 → Option (StatusMap Payload)) (token : AppToken)

def start (bridge : LifecycleBridge) : Wait Payload := { session := .opened bridge }

/-- The event that a move publishes, if it is one of the token that decides. -/
def decided (wait : Wait Payload) : SessionMove Payload → Option (LifecycleEvent Payload)
  | .event envelope true =>
    if wait.session.publishes envelope ∧ envelope.body.token = token ∧ envelope.body.event.decides then some envelope.body.event
    else none
  | _ => none

/-- The event that decides the wait, once the move is made. -/
def firstAfter (wait : Wait Payload) (move : SessionMove Payload) : Option (LifecycleEvent Payload) :=
  if wait.late then wait.first else wait.first.or (wait.decided token move)

def next (wait : Wait Payload) : WaitMove Payload → Wait Payload
  | .session move =>
    { wait with
      session := wait.session.next payloadBytes move
      first := wait.firstAfter token move }
  | .inspect =>
    if wait.outcome.isSome ∨ wait.phase ≠ .inspecting then wait
    else { wait with phase := if inspectable wait.session.file then .reading else .checking }
  | .read =>
    if wait.outcome.isSome ∨ wait.phase ≠ .reading then wait
    else match (parseStatus parse wait.session.file).bind fun status => status.verdict token "ready" false with
      | some result => { wait with outcome := some (.returned result) }
      | none => { wait with phase := .checking }
  | .check =>
    if wait.outcome.isSome ∨ wait.phase ≠ .checking then wait
    else if wait.late then { wait with outcome := some .timedOut }
    else { wait with phase := .inspecting }
  | .expire => { wait with late := true }

/-- Until the wait has ended, every event published once it is decided is of the token and
    decides alike, in a file that fits; and the deadline is not looked at before such an
    event has been read. -/
def Keeps (wait : Wait Payload) : WaitMove Payload → Prop
  | .session (.event envelope true) =>
    wait.session.publishes envelope = true → wait.outcome = none →
      ∀ event ∈ wait.firstAfter token (.event envelope true), envelope.body.token = token ∧ envelope.body.event.Alike event ∧
        statusSize payloadBytes wait.session.milestones envelope ≤ maxStatusBytes
  | .check => wait.outcome = none → wait.phase = .checking → wait.late = true → wait.first = none
  | _ => True

instance Keeps.decide (wait : Wait Payload) : ∀ move, Decidable (Keeps payloadBytes token wait move)
  | .session (.event envelope true) =>
    inferInstanceAs (Decidable (wait.session.publishes envelope = true → wait.outcome = none →
      ∀ event ∈ wait.firstAfter token (.event envelope true), envelope.body.token = token ∧ envelope.body.event.Alike event ∧
        statusSize payloadBytes wait.session.milestones envelope ≤ maxStatusBytes))
  | .check => inferInstanceAs (Decidable (wait.outcome = none → wait.phase = .checking → wait.late = true → wait.first = none))
  | .session (.event _ false) | .session (.dispatch _) | .session .disconnect | .inspect | .read | .expire => isTrue trivial

variable {payloadBytes parse token} {wait : Wait Payload}

/-! ## What holds in every wait -/

/-- The file shows an event of the token. -/
def Shows (payloadBytes : Payload → List UInt8) (token : AppToken) (session : Session Payload) (event : LifecycleEvent Payload) :
    Prop :=
  ∃ publication, session.published.getLast? = some publication ∧ publication.token = token ∧
    publication.event.Alike event ∧ statusSize payloadBytes publication.before publication.envelope ≤ maxStatusBytes

variable (payloadBytes token) in
structure Held (wait : Wait Payload) : Prop where
  sound : wait.session.Sound payloadBytes
  quiet : wait.first = none → wait.late = false →
    ∀ publication ∈ wait.session.published, publication.token = token → publication.event.decides = false
  shown : ∀ event, wait.first = some event → event.decides = true ∧ (wait.outcome = none → Shows payloadBytes token wait.session event)
  answered : ∀ event, wait.first = some event → ∀ outcome, wait.outcome = some outcome → event.Answered outcome
  ended : wait.outcome.isSome → wait.first = none → wait.late = true

/-- What the daemon makes of the file for an event that decides. -/
theorem verdict_decides {publication : Publication Payload} {event : LifecycleEvent Payload} (current : publication.token = token)
    (leased : token.leaseId.isSome) (alike : publication.event.Alike event) :
    ∃ result, (said publication.before publication.envelope).verdict token "ready" false = some result ∧
      event.Answered (.returned result) := by
  subst current
  have same : (said publication.before publication.envelope).appId = publication.token.appId ∧
      (said publication.before publication.envelope).generation = publication.token.generation ∧
      (said publication.before publication.envelope).foregroundEpoch = publication.token.foregroundEpoch ∧
      (said publication.before publication.envelope).leaseId = publication.token.leaseId ∧
      publication.token.leaseId.isSome := ⟨rfl, rfl, rfl, rfl, leased⟩
  unfold LifecycleStatus.verdict
  rw [if_pos same]
  cases kind : publication.envelope.body.event with
  | ready firstFrameSequence =>
    cases event with
    | ready other => simp [said, kind, LifecycleEvent.name, LifecycleEvent.Answered]
    | _ => simp [Publication.event, kind, LifecycleEvent.Alike] at alike
  | failed stage message retryable =>
    cases event with
    | failed stage' message' retryable' =>
      obtain ⟨rfl, rfl⟩ : stage = stage' ∧ message = message' := by
        simpa [Publication.event, kind, LifecycleEvent.Alike] using alike
      simp [said, kind, LifecycleEvent.name, LifecycleEvent.Answered]
    | _ => simp [Publication.event, kind, LifecycleEvent.Alike] at alike
  | _ => simp [Publication.event, kind, LifecycleEvent.Alike] at alike

/-- A file that ends the wait is one of an event that decides. -/
theorem verdict_some {publication : Publication Payload} {result : Except (String × String) LifecycleStatus}
    (ended : (said publication.before publication.envelope).verdict token "ready" false = some result) :
    publication.token = token ∧ publication.event.decides = true := by
  unfold LifecycleStatus.verdict at ended
  split at ended
  next same =>
    obtain ⟨app, generation, epoch, lease, -⟩ := same
    constructor
    · refine eventMatchesToken_iff.mp ?_
      simp only [eventMatchesToken, Bool.and_eq_true, beq_iff_eq]
      exact ⟨⟨⟨app, generation⟩, epoch⟩, lease⟩
    · unfold Publication.event
      cases kind : publication.envelope.body.event <;>
        simp [said, kind, LifecycleEvent.name, LifecycleEvent.decides] at ended ⊢
  next => cases ended

/-! ### Sessions go on -/

theorem decided_some {move : SessionMove Payload} {event : LifecycleEvent Payload} (decided : wait.decided token move = some event) :
    ∃ envelope, move = .event envelope true ∧ wait.session.publishes envelope = true ∧ envelope.body.token = token ∧
      envelope.body.event.decides = true ∧ envelope.body.event = event := by
  unfold Wait.decided at decided
  split at decided
  next envelope =>
    split at decided
    next holds =>
      cases decided
      exact ⟨envelope, rfl, holds.1, holds.2.1, holds.2.2, rfl⟩
    next => cases decided
  next => cases decided

theorem firstAfter_some {move : SessionMove Payload} {event : LifecycleEvent Payload}
    (decided : wait.firstAfter token move = some event) :
    wait.first = some event ∨ wait.first = none ∧ wait.late = false ∧ wait.decided token move = some event := by
  unfold firstAfter at decided
  by_cases late : wait.late = true
  · rw [if_pos late] at decided
    exact .inl decided
  · rw [if_neg late] at decided
    rcases Option.or_eq_some_iff.mp decided with before | ⟨none, now⟩
    · exact .inl before
    · exact .inr ⟨none, by simpa using late, now⟩

theorem firstAfter_none {move : SessionMove Payload} (undecided : wait.firstAfter token move = none) :
    wait.first = none ∧ (wait.late = false → wait.decided token move = none) := by
  unfold firstAfter at undecided
  by_cases late : wait.late = true
  · rw [if_pos late] at undecided
    exact ⟨undecided, fun early => by simp [late] at early⟩
  · rw [if_neg late, Option.or_eq_none_iff] at undecided
    exact ⟨undecided.1, fun _ => undecided.2⟩

variable (payloadBytes) in
/-- A move that is no event that is published. -/
theorem session_quiet {session : Session Payload} {move : SessionMove Payload}
    (quiet : ∀ envelope, move = .event envelope true → session.publishes envelope ≠ true) :
    (session.next payloadBytes move).published = session.published := by
  cases move with
  | dispatch command =>
    simp only [Session.next]
    cases (commandBody session.token 1 command : Option (LifecycleCommandBody Unit Payload × TokenState)) <;> rfl
  | event envelope written =>
    by_cases publishes : session.publishes envelope = true
    · cases written with
      | false => simp [Session.next, publishes, Session.write]
      | true => exact (quiet envelope rfl publishes).elim
    · simp only [Session.next, if_neg publishes]
      split <;> rfl
  | disconnect => rfl

theorem session_held (held : Held payloadBytes token wait) (move : SessionMove Payload)
    (keeps : Keeps payloadBytes token wait (.session move)) :
    Held payloadBytes token (wait.next payloadBytes parse token (.session move)) := by
  constructor
  · exact Session.next_sound held.sound move
  · intro undecided early publication member current
    obtain ⟨none, quiet⟩ := firstAfter_none undecided
    by_cases publishing : ∃ envelope, move = .event envelope true ∧ wait.session.publishes envelope = true
    · obtain ⟨envelope, rfl, publishes⟩ := publishing
      rw [next, Session.next_publishes publishes] at member
      rcases List.mem_append.mp member with old | new
      · exact held.quiet none early publication old current
      · rw [List.mem_singleton.mp new] at current ⊢
        by_contra decides
        have decided := quiet early
        simp only [Wait.decided] at decided
        rw [if_pos ⟨publishes, current, by simpa [Publication.event] using decides⟩] at decided
        cases decided
    · rw [next, session_quiet payloadBytes fun envelope same publishes => publishing ⟨envelope, same, publishes⟩] at member
      exact held.quiet none early publication member current
  · intro event decided
    refine ⟨?_, fun waiting => ?_⟩
    · rcases firstAfter_some decided with before | ⟨-, -, now⟩
      · exact (held.shown event before).1
      · obtain ⟨envelope, -, -, -, decides, rfl⟩ := decided_some now
        exact decides
    · by_cases publishing : ∃ envelope, move = .event envelope true ∧ wait.session.publishes envelope = true
      · obtain ⟨envelope, rfl, publishes⟩ := publishing
        obtain ⟨current, alike, fits⟩ := keeps publishes waiting event decided
        refine ⟨⟨wait.session.milestones, envelope⟩, ?_, current, alike, fits⟩
        rw [next, Session.next_publishes publishes]
        simp
      · have same := session_quiet payloadBytes fun envelope same publishes => publishing ⟨envelope, same, publishes⟩
        rcases firstAfter_some decided with before | ⟨-, -, now⟩
        · obtain ⟨publication, last, shows⟩ := (held.shown event before).2 waiting
          exact ⟨publication, by rw [next, same, last], shows⟩
        · obtain ⟨envelope, same, publishes, -⟩ := decided_some now
          exact (publishing ⟨envelope, same, publishes⟩).elim
  · intro event decided outcome ended
    rcases firstAfter_some decided with before | ⟨none, early, -⟩
    · exact held.answered event before outcome ended
    · have late := held.ended (Option.isSome_iff_exists.mpr ⟨outcome, ended⟩) none
      rw [early] at late
      cases late
  · intro ended undecided
    exact held.ended ended (firstAfter_none undecided).1

/-! ### The poll -/

theorem read_held (held : Held payloadBytes token wait) (leased : token.leaseId.isSome)
    (reads : ∀ publication ∈ wait.session.published, parse (publication.bytes payloadBytes) = some publication.status) :
    Held payloadBytes token (wait.next payloadBytes parse token .read) := by
  by_cases idle : wait.outcome.isSome ∨ wait.phase ≠ .reading
  · simpa only [next, if_pos idle] using held
  · have waiting : wait.outcome = none := by simpa using fun ended => idle (.inl ended)
    simp only [next, if_neg idle]
    cases found : (parseStatus parse wait.session.file).bind fun status => status.verdict token "ready" false with
    | none => exact { held with }
    | some result =>
      obtain ⟨status, parsed, ended⟩ := Option.bind_eq_some_iff.mp found
      obtain ⟨publication, member, last, rfl⟩ := Session.parseStatus_file held.sound reads parsed
      obtain ⟨current, decides⟩ := verdict_some ended
      refine { held with shown := ?_, answered := ?_, ended := ?_ }
      · intro event decided
        exact ⟨(held.shown event decided).1, fun absurd => by cases absurd⟩
      · intro event decided outcome same
        cases same
        obtain ⟨shown, last', current', alike, -⟩ := (held.shown event decided).2 waiting
        obtain rfl : publication = shown := Option.some.inj (last.symm.trans last')
        obtain ⟨result', same, answered⟩ := verdict_decides current' leased alike
        obtain rfl : result = result' := Option.some.inj (ended.symm.trans same)
        exact answered
      · intro _ undecided
        by_contra early
        have quiet := held.quiet undecided (by simpa using early) publication member current
        rw [decides] at quiet
        cases quiet

theorem next_held (held : Held payloadBytes token wait) (leased : token.leaseId.isSome)
    (reads : ∀ publication ∈ wait.session.published, parse (publication.bytes payloadBytes) = some publication.status)
    (move : WaitMove Payload) (keeps : Keeps payloadBytes token wait move) :
    Held payloadBytes token (wait.next payloadBytes parse token move) := by
  cases move with
  | session move => exact session_held held move keeps
  | inspect =>
    by_cases idle : wait.outcome.isSome ∨ wait.phase ≠ .inspecting
    · simpa only [next, if_pos idle] using held
    · simp only [next, if_neg idle]
      exact { held with }
  | read => exact read_held held leased reads
  | check =>
    by_cases idle : wait.outcome.isSome ∨ wait.phase ≠ .checking
    · simpa only [next, if_pos idle] using held
    · simp only [next, if_neg idle]
      by_cases late : wait.late = true
      · have undecided : wait.first = none :=
          keeps (by simpa using fun ended => idle (.inl ended)) (by simpa using fun other => idle (.inr other)) late
        rw [if_pos late]
        refine { held with shown := ?_, answered := ?_, ended := fun _ _ => late }
        · intro event decided
          simp [undecided] at decided
        · intro event decided
          simp [undecided] at decided
      · rw [if_neg late]
        exact { held with }
  | expire => exact { held with quiet := fun _ early => by simp [next] at early, ended := fun _ _ => rfl }

@[simp] theorem session_session (wait : Wait Payload) (move : SessionMove Payload) :
    (wait.next payloadBytes parse token (.session move)).session = wait.session.next payloadBytes move := rfl

@[simp] theorem inspect_session (wait : Wait Payload) :
    (wait.next payloadBytes parse token .inspect).session = wait.session := by
  simp only [next]
  split <;> rfl

@[simp] theorem read_session (wait : Wait Payload) : (wait.next payloadBytes parse token .read).session = wait.session := by
  simp only [next]
  split
  · rfl
  · split <;> rfl

@[simp] theorem check_session (wait : Wait Payload) : (wait.next payloadBytes parse token .check).session = wait.session := by
  simp only [next]
  split
  · rfl
  · split <;> rfl

theorem next_published (wait : Wait Payload) (move : WaitMove Payload) :
    wait.session.published <+: (wait.next payloadBytes parse token move).session.published := by
  cases move with
  | session move =>
    obtain ⟨more, published, -⟩ := Session.next_published payloadBytes wait.session move
    exact ⟨more, published.symm⟩
  | inspect => simp
  | read => simp
  | check => simp
  | expire => exact List.prefix_rfl

theorem run_published (moves : List (WaitMove Payload)) (wait : Wait Payload) :
    wait.session.published <+: (moves.foldl (next payloadBytes parse token) wait).session.published :=
  @Runs.run_invariant _ _ (next payloadBytes parse token) (fun after => wait.session.published <+: after.session.published)
    (fun after move grown => grown.trans (next_published after move)) moves wait List.prefix_rfl

theorem run_held (moves : List (WaitMove Payload)) {wait : Wait Payload} (held : Held payloadBytes token wait)
    (leased : token.leaseId.isSome)
    (reads : ∀ publication ∈ (moves.foldl (next payloadBytes parse token) wait).session.published,
      parse (publication.bytes payloadBytes) = some publication.status)
    (keeps : Runs.Along (next payloadBytes parse token) (Keeps payloadBytes token) wait moves) :
    Held payloadBytes token (moves.foldl (next payloadBytes parse token) wait) := by
  induction moves generalizing wait with
  | nil => exact held
  | cons move moves ih =>
    have early : ∀ publication ∈ wait.session.published, parse (publication.bytes payloadBytes) = some publication.status :=
      fun publication member => reads publication ((run_published (move :: moves) wait).subset member)
    exact ih (next_held held leased early move keeps.1) reads keeps.2

theorem start_held {bridge : LifecycleBridge} {appId : AppId} {generation foregroundEpoch leaseId : Option Nat}
    {deadline : Nat} (prepared : LifecycleBridge.prepare appId generation foregroundEpoch leaseId deadline = some bridge) :
    Held payloadBytes token (start bridge : Wait Payload) where
  sound := Session.opened_sound payloadBytes prepared
  quiet _ _ publication member := by simp [start, Session.opened] at member
  shown event decided := by simp [start] at decided
  answered event decided := by simp [start] at decided
  ended ended := by simp [start] at ended

/-- A poll that begins once the wait is decided ends it. -/
theorem poll_answers (held : Held payloadBytes token wait) (leased : token.leaseId.isSome)
    (reads : ∀ publication ∈ wait.session.published, parse (publication.bytes payloadBytes) = some publication.status)
    {event : LifecycleEvent Payload} (decided : wait.first = some event) (waiting : wait.outcome = none)
    (ready : wait.phase = .inspecting) :
    ∃ outcome, ((wait.next payloadBytes parse token .inspect).next payloadBytes parse token .read).outcome = some outcome ∧
      event.Answered outcome := by
  obtain ⟨publication, last, current, alike, fits⟩ := (held.shown event decided).2 waiting
  have member := List.mem_of_getLast? last
  obtain ⟨header, valid, kind, foreground⟩ := held.sound.checked publication member
  have file : wait.session.file = some (publication.bytes payloadBytes) := by rw [held.sound.file, last, Option.map_some]
  have length : (publication.bytes payloadBytes).length = statusSize payloadBytes publication.before publication.envelope :=
    status_length payloadBytes publication.before kind
  have written : (publication.bytes payloadBytes).isEmpty = false := by
    simp [Publication.bytes, StatusMap.bytes]
  have accepted : inspectable wait.session.file = true := by
    simp [file, inspectable, length, fits, written]
  have inspected : wait.next payloadBytes parse token .inspect = { wait with phase := .reading } := by
    simp [next, waiting, ready, accepted]
  obtain ⟨result, verdict, answered⟩ := verdict_decides current leased alike
  have parsed := parseStatus_said kind (reads publication member) header valid foreground
  refine ⟨.returned result, ?_, answered⟩
  rw [inspected]
  simp [next, waiting, file, parsed, verdict]

/-- Where the parser reads what was written and every step keeps the condition, a wait that
    an event of its token decides before the deadline ends with what the event says, and
    ends with the next poll. -/
theorem decided_not_lost {bridge : LifecycleBridge} {appId : AppId} {generation foregroundEpoch leaseId : Option Nat}
    {deadline : Nat} (prepared : LifecycleBridge.prepare appId generation foregroundEpoch leaseId deadline = some bridge)
    (app : AppId) (waited epoch lease : Nat) (moves : List (WaitMove Payload))
    (reads : ∀ publication ∈ (moves.foldl (next payloadBytes parse ⟨app, waited, epoch, some lease⟩) (start bridge)).session.published,
      parse (publication.bytes payloadBytes) = some publication.status)
    (keeps : Runs.Along (next payloadBytes parse ⟨app, waited, epoch, some lease⟩)
      (Keeps payloadBytes ⟨app, waited, epoch, some lease⟩) (start bridge) moves) :
    let wait := moves.foldl (next payloadBytes parse ⟨app, waited, epoch, some lease⟩) (start bridge)
    ∀ event, wait.first = some event →
      (∀ outcome, wait.outcome = some outcome → event.Answered outcome) ∧
      (wait.outcome = none → wait.phase = .inspecting →
        ∃ outcome, ((wait.next payloadBytes parse ⟨app, waited, epoch, some lease⟩ .inspect).next payloadBytes parse
          ⟨app, waited, epoch, some lease⟩ .read).outcome = some outcome ∧ event.Answered outcome) := by
  intro wait event decided
  have held : Held payloadBytes ⟨app, waited, epoch, some lease⟩ wait := run_held moves (start_held prepared) rfl reads keeps
  constructor
  · exact held.answered event decided
  · intro waiting ready
    exact poll_answers held rfl reads decided waiting ready

/-! ### A launch -/

def readyEvent : Envelope (LifecycleEventBody String) := { requestId := "event-1", body := ⟨Session.notesToken, .ready (some 1)⟩ }

def savedEvent : Envelope (LifecycleEventBody String) := { requestId := "event-2", body := ⟨Session.notesToken, .stateSaved none⟩ }

/-- What is published where the application saves its state as soon as it is ready. -/
def launchPublished : List (Publication String) :=
  [⟨{}, readyEvent⟩, ⟨Milestones.record {} readyEvent.body, savedEvent⟩]

theorem ready_published : ([.session (.event readyEvent true), .inspect, .read].foldl
      (next textBytes (Session.tableParse launchPublished) ⟨Channel.notes, 1, 1, some 1⟩) (start Channel.notesBridge)).session.published =
    [⟨{}, readyEvent⟩] := by
  have publishes : (start Channel.notesBridge : Wait String).session.publishes readyEvent = true := by decide +kernel
  simp only [List.foldl_cons, List.foldl_nil, read_session, inspect_session, session_session]
  rw [Session.next_publishes publishes]
  rfl

theorem ready_returns : ∃ outcome,
    ([.session (.event readyEvent true), .inspect, .read].foldl
      (next textBytes (Session.tableParse launchPublished) ⟨Channel.notes, 1, 1, some 1⟩) (start Channel.notesBridge)).outcome =
      some outcome ∧ (LifecycleEvent.ready (some 1) : LifecycleEvent String).Answered outcome := by
  have reads : ∀ publication ∈ ([.session (.event readyEvent true), .inspect, .read].foldl
      (next textBytes (Session.tableParse launchPublished) ⟨Channel.notes, 1, 1, some 1⟩) (start Channel.notesBridge)).session.published,
      Session.tableParse launchPublished (publication.bytes textBytes) = some publication.status := by
    rw [ready_published]
    intro publication member
    rw [List.mem_singleton.mp member]
    simp [Session.tableParse, launchPublished]
  have prepared : LifecycleBridge.prepare Channel.notes (some 1) (some 1) (some 1) 5000 = some Channel.notesBridge := rfl
  have answered := decided_not_lost prepared Channel.notes 1 1 1
    [.session (.event readyEvent true), .inspect, .read] reads (by decide +kernel) (.ready (some 1)) (by decide +kernel)
  have ended : ([.session (.event readyEvent true), .inspect, .read].foldl
      (next textBytes (Session.tableParse launchPublished) ⟨Channel.notes, 1, 1, some 1⟩) (start Channel.notesBridge)).outcome.isSome = true := by
    decide +kernel
  obtain ⟨outcome, ended⟩ := Option.isSome_iff_exists.mp ended
  exact ⟨outcome, ended, answered.1 outcome ended⟩

/-- The application saves its state before the next poll: the wait goes on, and times out. -/
theorem ready_overwritten :
    let wait := [.session (.event readyEvent true), .session (.event savedEvent true), .inspect, .read, .expire, .check].foldl
      (next textBytes (Session.tableParse launchPublished) Session.notesToken) (start Channel.notesBridge)
    wait.first = some (.ready (some 1)) ∧ wait.outcome = some .timedOut := by
  decide +kernel

end Wait

end Remagic.Lifecycle
