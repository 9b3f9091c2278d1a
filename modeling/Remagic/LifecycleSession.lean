import Remagic.LifecycleChannel
import Remagic.LifecycleStatus

/-!
# What the daemon reads of a session

A session of the runner publishes the events of its application under the current token.
What it publishes is read back as it was meant, as long as the file stays within the size
that the daemon reads.
-/

namespace Remagic.Lifecycle
open Supervisor
variable {Payload : Type} {envelope : Envelope (LifecycleEventBody Payload)} {milestones : Milestones Payload}

/-! ## Reading what was written -/

/-- What the file for an event after `milestones` says, as the daemon sees it. -/
def said (milestones : Milestones Payload) (envelope : Envelope (LifecycleEventBody Payload)) : LifecycleStatus where
  schema := 1
  appId := envelope.body.token.appId
  generation := envelope.body.token.generation
  foregroundEpoch := envelope.body.token.foregroundEpoch
  leaseId := envelope.body.token.leaseId
  requestId := envelope.requestId
  event := envelope.body.event.name
  firstFrameSequence := match envelope.body.event with
    | .ready firstFrameSequence => firstFrameSequence
    | _ => none
  stage := match envelope.body.event with
    | .failed stage .. => some stage.text
    | _ => none
  message := match envelope.body.event with
    | .failed _ message _ => some message
    | _ => none
  stateSaved := (milestones.record envelope.body).stateSaved
  backgroundReady := (milestones.record envelope.body).backgroundReady
  title := (milestones.record envelope.body).title
  subtitle := (milestones.record envelope.body).subtitle

theorem new_value (app : AppId) : AppId.new app.value = .ok app := by
  simp [AppId.new, app.valid]

theorem natural_number (n : Nat) : (StatusValue.number n : StatusValue Payload).natural? = some n := rfl

theorem orDefault_lease (lease : Option Nat) :
    StatusValue.orDefault StatusValue.natural?
      (some ((lease.map fun lease : Nat => (StatusValue.number lease : StatusValue Payload)).getD .null)) = some lease := by
  cases lease <;> rfl

theorem orDefault_text (text : Option String) :
    StatusValue.orDefault StatusValue.text? (text.map fun text => (StatusValue.text text : StatusValue Payload)) = some text := by
  cases text <;> rfl

theorem ofMembers_contents (milestones : Milestones Payload) (envelope : Envelope (LifecycleEventBody Payload)) :
    LifecycleStatus.ofMembers (contents milestones envelope) = some (said milestones envelope) := by
  have frame : StatusValue.orDefault StatusValue.natural? (contents milestones envelope .firstFrameSequence) =
      some (said milestones envelope).firstFrameSequence := by
    cases event : envelope.body.event with
    | ready firstFrameSequence => cases firstFrameSequence <;> simp [contents, said, event, StatusValue.orDefault, natural_number]
    | _ => simp [contents, said, event, StatusValue.orDefault]
  have stage : StatusValue.orDefault StatusValue.text? (contents milestones envelope .stage) =
      some (said milestones envelope).stage := by
    cases event : envelope.body.event <;> simp [contents, said, event, StatusValue.orDefault, StatusValue.text?]
  have message : StatusValue.orDefault StatusValue.text? (contents milestones envelope .message) =
      some (said milestones envelope).message := by
    cases event : envelope.body.event <;> simp [contents, said, event, StatusValue.orDefault, StatusValue.text?]
  have lease : StatusValue.orDefault StatusValue.natural? (contents milestones envelope .leaseId) =
      some envelope.body.token.leaseId := orDefault_lease _
  unfold LifecycleStatus.ofMembers
  rw [frame, stage, message, lease]
  simp [contents, said, StatusValue.text?, new_value, orDefault_text, StatusValue.flag?,
    record_stateSaved, record_backgroundReady, record_title, record_subtitle, Except.toOption, StatusValue.natural?]

theorem parseStatus_said {parse : List UInt8 → Option (StatusMap Payload)} {bytes : List UInt8}
    (published : envelope.body.event.isNotification = false) (reads : parse bytes = some (milestones.status envelope))
    (header : envelope.validHeader = true) (valid : envelope.body.valid = true)
    (foreground : 0 < envelope.body.token.foregroundEpoch) :
    parseStatus parse (some bytes) = some (said milestones envelope) := by
  have token : envelope.body.token.validate.isOk = true := by
    unfold LifecycleEventBody.valid at valid
    exact (Bool.and_eq_true_iff.mp valid).1
  have generation : envelope.body.token.generation ≠ 0 := by
    intro zero
    unfold AppToken.validate at token
    simp [zero, Except.isOk, Except.toBool] at token
  have lease : envelope.body.token.leaseId ≠ some 0 := by
    intro zero
    unfold AppToken.validate at token
    simp [generation, zero, Except.isOk, Except.toBool] at token
  have named : envelope.requestId.isEmpty = false := by
    unfold Envelope.validHeader validRequestId at header
    simp only [Bool.and_eq_true] at header
    simpa using header.2.1.1
  have event : envelope.body.event.name.isEmpty = false := by
    cases envelope.body.event <;> rfl
  have frame : (said milestones envelope).firstFrameSequence ≠ some 0 := by
    unfold LifecycleEventBody.valid at valid
    cases kind : envelope.body.event <;> simp_all [said]
  have checks : ¬((said milestones envelope).schema ≠ 1 ∨ (said milestones envelope).generation = 0 ∨
      (said milestones envelope).foregroundEpoch = 0 ∨ (said milestones envelope).requestId.isEmpty = true ∨
      (said milestones envelope).event.isEmpty = true ∨ (said milestones envelope).leaseId = some 0 ∨
      (said milestones envelope).firstFrameSequence = some 0) := by
    rintro (schema | zero | zero | none | none | zero | zero)
    · exact schema rfl
    · exact generation zero
    · exact Nat.ne_of_gt foreground zero
    · exact absurd (named.symm.trans none) (by decide)
    · exact absurd (event.symm.trans none) (by decide)
    · exact lease zero
    · exact frame zero
  unfold parseStatus
  simp only [Option.bind_eq_bind, Option.bind_some, reads, status_contents milestones published, ofMembers_contents]
  rw [if_neg checks]

/-! ## Sessions -/

/-- Ghost: an event that was published, and the milestones before it. -/
structure Publication (Payload : Type) where
  before : Milestones Payload
  envelope : Envelope (LifecycleEventBody Payload)

namespace Publication

def token (publication : Publication Payload) : AppToken := publication.envelope.body.token

def event (publication : Publication Payload) : LifecycleEvent Payload := publication.envelope.body.event

def status (publication : Publication Payload) : StatusMap Payload := publication.before.status publication.envelope

def bytes (payloadBytes : Payload → List UInt8) (publication : Publication Payload) : List UInt8 :=
  publication.status.bytes payloadBytes

end Publication

/-- The runner's side of a session. -/
structure Session (Payload : Type) where
  token : TokenState
  milestones : Milestones Payload := {}
  /-- `lifecycle-status.json`, which `clear_stale` has removed. -/
  file : Option (List UInt8) := none
  /-- The task that forwards events has ended. -/
  stopped : Bool := false
  published : List (Publication Payload) := []

inductive SessionMove (Payload : Type) where
  /-- A command of the daemon, which may bring a new token. -/
  | dispatch (command : AppCommand Payload)
  /-- An event arrives. Its file may fail to be written. -/
  | event (envelope : Envelope (LifecycleEventBody Payload)) (written : Bool)
  /-- Something that is no event arrives, or nothing will any more. -/
  | disconnect

namespace Session

/-- The event passes the checks of `decode_event`, is current, and is not left out by `write`. -/
def publishes (session : Session Payload) (envelope : Envelope (LifecycleEventBody Payload)) : Bool :=
  !session.stopped && envelope.validHeader && envelope.body.valid &&
    eventMatchesToken envelope.body.token session.token.token && !envelope.body.event.isNotification

variable (payloadBytes : Payload → List UInt8)

/-- `LifecycleStatusStore::write`, of an event that is published. -/
def write (session : Session Payload) (envelope : Envelope (LifecycleEventBody Payload)) (written : Bool) : Session Payload :=
  let milestones := session.milestones.record envelope.body
  if written then
    { session with
      milestones
      file := some ((session.milestones.status envelope).bytes payloadBytes)
      published := session.published ++ [⟨session.milestones, envelope⟩] }
  else { session with milestones, stopped := true }

def next (session : Session Payload) : SessionMove Payload → Session Payload
  | .dispatch command =>
    match (commandBody session.token 1 command : Option (LifecycleCommandBody Unit Payload × TokenState)) with
    | some (_, token) => { session with token }
    | none => session
  | .event envelope written =>
    if session.publishes envelope then session.write payloadBytes envelope written
    else if envelope.validHeader && envelope.body.valid then session
    else { session with stopped := true }
  | .disconnect => { session with stopped := true }

/-- The file of an event that is published is within what the daemon reads. -/
def Fits (session : Session Payload) : SessionMove Payload → Prop
  | .event envelope true => session.publishes envelope = true → statusSize payloadBytes session.milestones envelope ≤ maxStatusBytes
  | _ => True

instance Fits.decide (session : Session Payload) : ∀ move, Decidable (Fits payloadBytes session move)
  | .event envelope true =>
    inferInstanceAs (Decidable (session.publishes envelope = true → statusSize payloadBytes session.milestones envelope ≤ maxStatusBytes))
  | .event _ false | .dispatch _ | .disconnect => isTrue trivial

variable {payloadBytes} {session : Session Payload}

theorem publishes_iff :
    session.publishes envelope = true ↔
    session.stopped = false ∧ envelope.validHeader = true ∧ envelope.body.valid = true ∧
      envelope.body.token = session.token.token ∧ envelope.body.event.isNotification = false := by
  simp [publishes, eventMatchesToken_iff, and_assoc]

theorem next_publishes (publishes : session.publishes envelope = true) :
    session.next payloadBytes (.event envelope true) = { session with
        milestones := session.milestones.record envelope.body
        file := some ((session.milestones.status envelope).bytes payloadBytes)
        published := session.published ++ [⟨session.milestones, envelope⟩] } := by
  simp [next, publishes, write]

/-! ### What holds in every session -/

/-- An event of `published` that `kind` holds of, under `token`. -/
def Persisted (published : List (Publication Payload)) (token : AppToken) (kind : LifecycleEvent Payload → Bool) : Prop :=
  ∃ publication ∈ published, publication.token = token ∧ kind publication.event = true

theorem Persisted.mono {published more : List (Publication Payload)} {token : AppToken} {kind : LifecycleEvent Payload → Bool}
    (persisted : Persisted published token kind) : Persisted (published ++ more) token kind := by
  obtain ⟨publication, member, holds⟩ := persisted
  exact ⟨publication, List.mem_append_left _ member, holds⟩

/-- The milestones stand for events that were published. -/
structure Earned (milestones : Milestones Payload) (published : List (Publication Payload)) : Prop where
  saved : ∀ token, milestones.token = some token → milestones.stateSaved = true →
    Persisted published token LifecycleEvent.isStateSaved
  ready : ∀ token, milestones.token = some token → milestones.backgroundReady = true →
    Persisted published token LifecycleEvent.isBackgroundReady

variable (payloadBytes) in
structure Sound (session : Session Payload) : Prop where
  foreground : 0 < session.token.token.foregroundEpoch
  earned : session.stopped = false → Earned session.milestones session.published
  file : session.file = session.published.getLast?.map fun publication => publication.bytes payloadBytes
  checked : ∀ publication ∈ session.published, publication.envelope.validHeader = true ∧
    publication.envelope.body.valid = true ∧ publication.event.isNotification = false ∧
    0 < publication.token.foregroundEpoch
  said : ∀ publication ∈ session.published,
    Earned (publication.before.record publication.envelope.body) session.published

theorem record_token (milestones : Milestones Payload) (body : LifecycleEventBody Payload) :
    (milestones.record body).token = some body.token := by
  by_cases current : milestones.token = some body.token <;> cases event : body.event <;>
    simp [Milestones.record, current, event]

/-- Publishing an event earns its milestone. -/
theorem record_earned {published : List (Publication Payload)} (earned : Earned milestones published)
    (envelope : Envelope (LifecycleEventBody Payload)) :
    Earned (milestones.record envelope.body) (published ++ [⟨milestones, envelope⟩]) := by
  have token := record_token milestones envelope.body
  constructor
  · intro held same saved
    obtain rfl : envelope.body.token = held := Option.some.inj (token.symm.trans same)
    rw [record_stateSaved, Bool.or_eq_true] at saved
    rcases saved with now | before
    · exact ⟨⟨milestones, envelope⟩, by simp, rfl, now⟩
    · by_cases current : milestones.token = some envelope.body.token
      · exact (earned.saved _ current (by simpa [Milestones.kept, current] using before)).mono
      · simp [Milestones.kept, current] at before
  · intro held same ready
    obtain rfl : envelope.body.token = held := Option.some.inj (token.symm.trans same)
    rw [record_backgroundReady, Bool.or_eq_true] at ready
    rcases ready with now | before
    · exact ⟨⟨milestones, envelope⟩, by simp, rfl, now⟩
    · by_cases current : milestones.token = some envelope.body.token
      · exact (earned.ready _ current (by simpa [Milestones.kept, current] using before)).mono
      · simp [Milestones.kept, current] at before

theorem earned_mono {published more : List (Publication Payload)} (earned : Earned milestones published) :
    Earned milestones (published ++ more) where
  saved token current saved := (earned.saved token current saved).mono
  ready token current ready := (earned.ready token current ready).mono

theorem write_sound (sound : Sound payloadBytes session) (publishes : session.publishes envelope = true)
    (written : Bool) : Sound payloadBytes (session.write payloadBytes envelope written) := by
  obtain ⟨running, header, valid, current, kind⟩ := publishes_iff.mp publishes
  cases written with
  | false => exact { sound with earned := fun runs => by simp [write] at runs }
  | true =>
    have earned := record_earned (sound.earned running) envelope
    constructor
    · exact sound.foreground
    · intro _
      exact earned
    · simp [write, Publication.bytes, Publication.status]
    · intro publication member
      rcases List.mem_append.mp member with old | new
      · exact sound.checked publication old
      · rw [List.mem_singleton.mp new]
        refine ⟨header, valid, kind, ?_⟩
        simp only [Publication.token, current]
        exact sound.foreground
    · intro publication member
      rcases List.mem_append.mp member with old | new
      · exact earned_mono (sound.said publication old)
      · rw [List.mem_singleton.mp new]
        exact earned

theorem next_sound (sound : Sound payloadBytes session) (move : SessionMove Payload) :
    Sound payloadBytes (session.next payloadBytes move) := by
  cases move with
  | dispatch command =>
    simp only [next]
    cases made : (commandBody session.token 1 command : Option (LifecycleCommandBody Unit Payload × TokenState)) with
    | none => exact sound
    | some made' =>
      have later := (commandBody_token made).2
      exact { sound with foreground := Nat.lt_of_lt_of_le sound.foreground later.foregroundEpoch }
  | event envelope written =>
    simp only [next]
    by_cases publishes : session.publishes envelope = true
    · rw [if_pos publishes]
      exact write_sound sound publishes written
    · rw [if_neg publishes]
      split
      · exact sound
      · exact { sound with earned := fun runs => by simp at runs }
  | disconnect => exact { sound with earned := fun runs => by simp [next] at runs }

/-- A session of a bridge that `prepare_lifecycle` has made. -/
def opened (bridge : LifecycleBridge) : Session Payload := { token := bridge.token }

variable (payloadBytes) in
theorem opened_sound {bridge : LifecycleBridge} {appId : AppId} {generation foregroundEpoch leaseId : Option Nat}
    {deadline : Nat} (prepared : LifecycleBridge.prepare appId generation foregroundEpoch leaseId deadline = some bridge) :
    Sound payloadBytes (opened bridge) := by
  unfold LifecycleBridge.prepare at prepared
  split at prepared
  next generation epoch lease =>
    by_cases zero : epoch = 0 ∨ lease = 0
    · rw [if_pos zero] at prepared
      cases prepared
    · rw [if_neg zero] at prepared
      cases prepared
      have positive : 0 < epoch := by omega
      constructor
      · exact positive
      · intro _
        constructor <;> simp [opened]
      · rfl
      · simp [opened]
      · simp [opened]
  next => cases prepared

/-! ### What is read back -/

variable (parse : List UInt8 → Option (StatusMap Payload))

variable (payloadBytes) in
/-- The published file is accepted, and says the token, the event and the milestones. -/
def ReadBack (publication : Publication Payload) : Prop :=
  ∃ status, readStatus parse (some (publication.bytes payloadBytes)) = some status ∧
    (⟨status.appId, status.generation, status.foregroundEpoch, status.leaseId⟩ : AppToken) = publication.token ∧
    status.event = publication.event.name ∧
    status.stateSaved = (publication.before.record publication.envelope.body).stateSaved ∧
    status.backgroundReady = (publication.before.record publication.envelope.body).backgroundReady

variable {parse}

theorem readBack_iff (sound : Sound payloadBytes session) {publication : Publication Payload}
    (member : publication ∈ session.published) (reads : parse (publication.bytes payloadBytes) = some publication.status) :
    ReadBack payloadBytes parse publication ↔
      statusSize payloadBytes publication.before publication.envelope ≤ maxStatusBytes := by
  obtain ⟨header, valid, kind, foreground⟩ := sound.checked publication member
  have length : (publication.bytes payloadBytes).length = statusSize payloadBytes publication.before publication.envelope :=
    status_length payloadBytes publication.before kind
  constructor
  · rintro ⟨status, read, -⟩
    by_contra large
    have refused : inspectable (some (publication.bytes payloadBytes)) = false := by
      simp [inspectable, length, large]
    simp [readStatus, refused] at read
  · intro fits
    have written : (publication.bytes payloadBytes).isEmpty = false := by
      simp [Publication.bytes, StatusMap.bytes]
    have accepted : inspectable (some (publication.bytes payloadBytes)) = true := by
      simp [inspectable, length, fits, written]
    refine ⟨said publication.before publication.envelope, ?_, rfl, rfl, rfl, rfl⟩
    rw [readStatus, if_pos accepted]
    exact parseStatus_said kind reads header valid foreground

variable (payloadBytes) in
/-- What one move publishes. -/
theorem next_published (session : Session Payload) (move : SessionMove Payload) :
    ∃ more, (session.next payloadBytes move).published = session.published ++ more ∧
      (Fits payloadBytes session move ↔
        ∀ publication ∈ more, statusSize payloadBytes publication.before publication.envelope ≤ maxStatusBytes) := by
  cases move with
  | dispatch command =>
    refine ⟨[], ?_, by simp [Fits]⟩
    simp only [next, List.append_nil]
    cases (commandBody session.token 1 command : Option (LifecycleCommandBody Unit Payload × TokenState)) <;> rfl
  | event envelope written =>
    by_cases publishes : session.publishes envelope = true
    · cases written with
      | false => exact ⟨[], by simp [next, publishes, write], by simp [Fits]⟩
      | true =>
        exact ⟨[⟨session.milestones, envelope⟩], by simp [next, publishes, write], by simp [Fits, publishes]⟩
    · refine ⟨[], ?_, ?_⟩
      · simp only [next, if_neg publishes, List.append_nil]
        split <;> rfl
      · cases written <;> simp [Fits, publishes]
  | disconnect => exact ⟨[], by simp [next], by simp [Fits]⟩

variable (payloadBytes) in
theorem run_published (moves : List (SessionMove Payload)) (session : Session Payload) :
    ∃ more, (moves.foldl (next payloadBytes) session).published = session.published ++ more ∧
      (Runs.Along (next payloadBytes) (Fits payloadBytes) session moves ↔
        ∀ publication ∈ more, statusSize payloadBytes publication.before publication.envelope ≤ maxStatusBytes) := by
  induction moves generalizing session with
  | nil => exact ⟨[], by simp, by simp [Runs.Along]⟩
  | cons move moves ih =>
    obtain ⟨one, first, fits⟩ := next_published payloadBytes session move
    obtain ⟨later, last, along⟩ := ih (session.next payloadBytes move)
    refine ⟨one ++ later, by rw [List.foldl_cons, last, first, List.append_assoc], ?_⟩
    simp only [Runs.Along, fits, along, List.mem_append, or_imp, forall_and]

theorem run_sound (moves : List (SessionMove Payload)) (sound : Sound payloadBytes session) :
    Sound payloadBytes (moves.foldl (next payloadBytes) session) :=
  @Runs.run_invariant _ _ (next payloadBytes) (Sound payloadBytes) (fun _ move holds => next_sound holds move) moves session sound

/-- What is found in the file is what the last publication says. -/
theorem parseStatus_file (sound : Sound payloadBytes session)
    (reads : ∀ publication ∈ session.published, parse (publication.bytes payloadBytes) = some publication.status)
    {found : LifecycleStatus} (parsed : parseStatus parse session.file = some found) :
    ∃ publication ∈ session.published, session.published.getLast? = some publication ∧
      found = said publication.before publication.envelope := by
  rw [sound.file] at parsed
  cases last : session.published.getLast? with
  | none => simp [last, parseStatus] at parsed
  | some publication =>
    have member := List.mem_of_getLast? last
    obtain ⟨header, valid, kind, foreground⟩ := sound.checked publication member
    refine ⟨publication, member, rfl, ?_⟩
    rw [last, Option.map_some, parseStatus_said kind (reads publication member) header valid foreground] at parsed
    exact (Option.some.inj parsed).symm

/-- A file that satisfies the wait for a parked application follows both of its events. -/
theorem background_ready_persisted (sound : Sound payloadBytes session)
    (reads : ∀ publication ∈ session.published, parse (publication.bytes payloadBytes) = some publication.status)
    {token : AppToken} {found status : LifecycleStatus} {expectedEvent : String}
    (parsed : parseStatus parse session.file = some found)
    (ready : found.verdict token expectedEvent true = some (.ok status)) :
    Persisted session.published token LifecycleEvent.isStateSaved ∧
      Persisted session.published token LifecycleEvent.isBackgroundReady := by
  obtain ⟨publication, member, -, rfl⟩ := parseStatus_file sound reads parsed
  have earned := sound.said publication member
  unfold LifecycleStatus.verdict at ready
  split at ready
  next same =>
    split at ready
    · cases ready
    · split at ready
      next both =>
        have current : publication.envelope.body.token = token := by
          obtain ⟨app, generation, epoch, lease, -⟩ := same
          refine eventMatchesToken_iff.mp ?_
          simp only [eventMatchesToken, Bool.and_eq_true, beq_iff_eq]
          exact ⟨⟨⟨app, generation⟩, epoch⟩, lease⟩
        have held := record_token publication.before publication.envelope.body
        rw [current] at held
        rcases both with ⟨-, saved, background⟩ | ⟨absurd, -⟩
        · exact ⟨earned.saved token held saved, earned.ready token held background⟩
        · cases absurd
      next => cases ready
  next => cases ready

/-- Where the parser reads what was written, all that a session publishes is read back
    exactly when each file fits, and a wait for a parked application succeeds only after
    both of its events. -/
theorem read_back_iff {bridge : LifecycleBridge} {appId : AppId} {generation foregroundEpoch leaseId : Option Nat}
    {deadline : Nat} (prepared : LifecycleBridge.prepare appId generation foregroundEpoch leaseId deadline = some bridge)
    (moves : List (SessionMove Payload))
    (reads : ∀ publication ∈ (moves.foldl (next payloadBytes) (opened bridge)).published,
      parse (publication.bytes payloadBytes) = some publication.status) :
    ((∀ publication ∈ (moves.foldl (next payloadBytes) (opened bridge)).published,
        ReadBack payloadBytes parse publication) ↔
      Runs.Along (next payloadBytes) (Fits payloadBytes) (opened bridge) moves) ∧
    ∀ token found status expectedEvent,
      parseStatus parse (moves.foldl (next payloadBytes) (opened bridge)).file = some found →
      found.verdict token expectedEvent true = some (.ok status) →
      Persisted (moves.foldl (next payloadBytes) (opened bridge)).published token LifecycleEvent.isStateSaved ∧
        Persisted (moves.foldl (next payloadBytes) (opened bridge)).published token LifecycleEvent.isBackgroundReady := by
  have sound := run_sound moves (opened_sound payloadBytes prepared)
  constructor
  · obtain ⟨more, published, fits⟩ := run_published payloadBytes moves (opened bridge)
    rw [opened, List.nil_append] at published
    rw [fits, ← published]
    exact forall₂_congr fun publication member => readBack_iff sound member (reads publication member)
  · intro token found status expectedEvent parsed ready
    exact background_ready_persisted sound reads parsed ready

/-! ### A session -/

def notesToken : AppToken := ⟨Channel.notes, 1, 1, some 1⟩

/-- The application saves a payload, and gets ready under a title. -/
def parkMoves (payload title : String) : List (SessionMove String) :=
  [.event { requestId := "event-1", body := ⟨notesToken, .stateSaved (some payload)⟩ } true,
    .event { requestId := "event-2", body := ⟨notesToken, .backgroundReady title "" none⟩ } true]

/-- What the two moves publish. -/
def parkPublished (payload title : String) : List (Publication String) :=
  let saved : LifecycleEventBody String := ⟨notesToken, .stateSaved (some payload)⟩
  [⟨{}, { requestId := "event-1", body := saved }⟩,
    ⟨Milestones.record {} saved, { requestId := "event-2", body := ⟨notesToken, .backgroundReady title "" none⟩ }⟩]

theorem park_published (payload title : String) :
    ((parkMoves payload title).foldl (next textBytes) (opened Channel.notesBridge)).published = parkPublished payload title := by
  have token : notesToken.validate.isOk = true := by decide
  have first : validRequestId "event-1" = true := by decide
  have second : validRequestId "event-2" = true := by decide
  simp only [parkMoves, List.foldl_cons, List.foldl_nil]
  have saves : (opened Channel.notesBridge).publishes
      { requestId := "event-1", body := ⟨notesToken, .stateSaved (some payload)⟩ } = true :=
    publishes_iff.mpr ⟨rfl, by simpa [Envelope.validHeader] using first, by simpa [LifecycleEventBody.valid] using token,
      rfl, rfl⟩
  rw [next_publishes saves]
  rw [next_publishes (publishes_iff.mpr ⟨rfl, by simpa [Envelope.validHeader] using second,
    by simpa [LifecycleEventBody.valid] using token, rfl, rfl⟩)]
  rfl

/-- A parser of the files of `published`. -/
def tableParse (published : List (Publication String)) (bytes : List UInt8) : Option (StatusMap String) :=
  (published.find? fun publication => publication.bytes textBytes == bytes).map Publication.status

theorem notes_read_back : ((parkMoves "page 1" "Notes").foldl (next textBytes) (opened Channel.notesBridge)).published.Forall
    (ReadBack textBytes (tableParse (parkPublished "page 1" "Notes"))) := by
  rw [List.forall_iff_forall_mem]
  refine (read_back_iff (show LifecycleBridge.prepare Channel.notes (some 1) (some 1) (some 1) 5000 = some Channel.notesBridge from rfl)
    (parkMoves "page 1" "Notes") ?_).1.mpr (by decide +kernel)
  rw [park_published]
  intro publication member
  simp only [parkPublished, List.mem_cons, List.not_mem_nil, or_false] at member
  have apart : ((Publication.bytes textBytes (parkPublished "page 1" "Notes")[0]) ==
      (Publication.bytes textBytes (parkPublished "page 1" "Notes")[1])) = false := by
    decide +kernel
  rcases member with rfl | rfl
  · simp [tableParse, parkPublished]
  · simp only [tableParse, parkPublished, List.find?_cons]
    simp only [parkPublished, List.getElem_cons_zero, List.getElem_cons_succ] at apart
    simp [apart]

theorem textBytes_replicate (n : Nat) : (textBytes (String.ofList (List.replicate n 'x'))).length = n + 2 := by
  have one : (escape 'x').length = 1 := by decide
  simp [textBytes, List.length_flatMap, one]

/-- A long payload and a long title, each within a frame, make a file that no reader
    accepts. -/
theorem long_status_unread :
    let long := String.ofList (List.replicate 40000 'x')
    (textBytes long).length < maxFrame ∧
    ∀ parse, ∃ publication ∈ ((parkMoves long long).foldl (next textBytes) (opened Channel.notesBridge)).published,
      ¬ReadBack textBytes parse publication := by
  intro long
  have size : (textBytes long).length = 40002 := textBytes_replicate 40000
  refine ⟨by rw [size]; decide, fun parse => ?_⟩
  rw [park_published]
  refine ⟨(parkPublished long long)[1], by simp [parkPublished], ?_⟩
  rintro ⟨status, read, -⟩
  have kind : (parkPublished long long)[1].envelope.body.event.isNotification = false := rfl
  have length := status_length textBytes (parkPublished long long)[1].before kind
  have title : (contents (parkPublished long long)[1].before (parkPublished long long)[1].envelope) .title = some (.text long) := rfl
  have payload : (contents (parkPublished long long)[1].before (parkPublished long long)[1].envelope) .resumePayload =
      some (.payload long) := by
    simp [contents, parkPublished, LifecycleEvent.resumePayload?, Milestones.kept, Milestones.record]
  have large : maxStatusBytes < ((parkPublished long long)[1].bytes textBytes).length := by
    rw [Publication.bytes, Publication.status, length, statusSize]
    simp only [StatusField.all, total, title, payload, StatusField.sizeOf?, Option.map_some,
      Option.getD_some, StatusField.size, StatusValue.bytes, size, maxStatusBytes]
    omega
  have refused : inspectable (some ((parkPublished long long)[1].bytes textBytes)) = false := by
    simp [inspectable, large]
  simp [readStatus, refused] at read

end Session

end Remagic.Lifecycle
