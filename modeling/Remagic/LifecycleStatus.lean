import Remagic.LifecycleTokens

/-!
# The lifecycle status file

The runner publishes each event of its application, with the milestones of the token so
far, as one JSON object in a file that the next one replaces. The daemon reads the file.
-/

namespace Remagic.Lifecycle
open Supervisor

inductive LifecycleStage where
  | start
  | foreground
  | background
  | save
  | shutdown
  | runtime
  deriving DecidableEq

def LifecycleStage.text : LifecycleStage → String
  | .start => "start"
  | .foreground => "foreground"
  | .background => "background"
  | .save => "save"
  | .shutdown => "shutdown"
  | .runtime => "runtime"

inductive LifecycleEvent (Payload : Type) where
  | ready (firstFrameSequence : Option Nat)
  | backgroundReady (title subtitle : String) (resumePayload : Option Payload)
  | stateSaved (resumePayload : Option Payload)
  | shutdownComplete (exitCode : Int)
  | failed (stage : LifecycleStage) (message : String) (retryable : Bool)
  | notification (title body : String)
  deriving DecidableEq

structure LifecycleEventBody (Payload : Type) where
  token : AppToken
  event : LifecycleEvent Payload
  deriving DecidableEq

variable {Payload : Type}

namespace LifecycleEvent

def name : LifecycleEvent Payload → String
  | ready _ => "ready"
  | backgroundReady .. => "background_ready"
  | stateSaved _ => "state_saved"
  | shutdownComplete _ => "shutdown_complete"
  | failed .. => "failed"
  | notification .. => "notification"

def isNotification : LifecycleEvent Payload → Bool
  | notification .. => true
  | _ => false

end LifecycleEvent

/-- `LifecycleEventBody::validate`. -/
def LifecycleEventBody.valid (body : LifecycleEventBody Payload) : Bool :=
  body.token.validate.isOk &&
    match body.event with
    | .ready firstFrameSequence => firstFrameSequence ≠ some 0
    | _ => true

/-! ## The object -/

/-- The names of the object's members, in the order of a `BTreeMap`. -/
inductive StatusField where
  | appId
  | backgroundReady
  | event
  | exitCode
  | firstFrameSequence
  | foregroundEpoch
  | generation
  | leaseId
  | message
  | requestId
  | resumePayload
  | retryable
  | schema
  | stage
  | stateSaved
  | subtitle
  | title
  deriving DecidableEq

namespace StatusField

def all : List StatusField :=
  [appId, backgroundReady, event, exitCode, firstFrameSequence, foregroundEpoch, generation, leaseId, message, requestId,
    resumePayload, retryable, schema, stage, stateSaved, subtitle, title]

def name : StatusField → String
  | appId => "app_id"
  | backgroundReady => "background_ready"
  | event => "event"
  | exitCode => "exit_code"
  | firstFrameSequence => "first_frame_sequence"
  | foregroundEpoch => "foreground_epoch"
  | generation => "generation"
  | leaseId => "lease_id"
  | message => "message"
  | requestId => "request_id"
  | resumePayload => "resume_payload"
  | retryable => "retryable"
  | schema => "schema"
  | stage => "stage"
  | stateSaved => "state_saved"
  | subtitle => "subtitle"
  | title => "title"

end StatusField

inductive StatusValue (Payload : Type) where
  | null
  | flag (value : Bool)
  | number (value : Int)
  | text (value : String)
  | payload (value : Payload)
  deriving DecidableEq

def StatusMap (Payload : Type) : Type := StatusField → Option (StatusValue Payload)

namespace StatusMap

def new : StatusMap Payload := fun _ => none

def insert (status : StatusMap Payload) (field : StatusField) (value : StatusValue Payload) : StatusMap Payload :=
  fun other => if other = field then some value else status other

/-- `insert_optional`. -/
def insertOptional (status : StatusMap Payload) (field : StatusField) : Option (StatusValue Payload) → StatusMap Payload
  | some value => status.insert field value
  | none => status

@[simp] theorem insert_apply (status : StatusMap Payload) (field other : StatusField) (value : StatusValue Payload) :
    status.insert field value other = if other = field then some value else status other := rfl

@[simp] theorem insertOptional_apply (status : StatusMap Payload) (field other : StatusField)
    (value : Option (StatusValue Payload)) :
    status.insertOptional field value other = if other = field then value.or (status other) else status other := by
  cases value with
  | none => simp [insertOptional]
  | some value =>
    by_cases same : other = field <;> simp [insertOptional, same]

end StatusMap

/-! ## The writer -/

def insertEventFields (status : StatusMap Payload) : LifecycleEvent Payload → StatusMap Payload
  | .ready firstFrameSequence =>
    (status.insert .event (.text "ready")).insertOptional .firstFrameSequence
      (firstFrameSequence.map fun sequence => .number sequence)
  | .backgroundReady title subtitle resumePayload =>
    (((status.insert .event (.text "background_ready")).insert .title (.text title)).insert .subtitle
      (.text subtitle)).insertOptional .resumePayload (resumePayload.map .payload)
  | .stateSaved resumePayload =>
    (status.insert .event (.text "state_saved")).insertOptional .resumePayload (resumePayload.map .payload)
  | .shutdownComplete exitCode =>
    (status.insert .event (.text "shutdown_complete")).insert .exitCode (.number exitCode)
  | .failed stage message retryable =>
    (((status.insert .event (.text "failed")).insert .stage (.text stage.text)).insert .message
      (.text message)).insert .retryable (.flag retryable)
  -- Not reached: `write` leaves notifications out.
  | .notification .. => status

def statusValue (envelope : Envelope (LifecycleEventBody Payload)) : StatusMap Payload :=
  let token := envelope.body.token
  insertEventFields
    ((((((StatusMap.new.insert .schema (.number 1)).insert .appId (.text token.appId.value)).insert .generation
      (.number token.generation)).insert .foregroundEpoch (.number token.foregroundEpoch)).insert .leaseId
      ((token.leaseId.map fun lease => .number lease).getD .null)).insert .requestId (.text envelope.requestId))
    envelope.body.event

structure Milestones (Payload : Type) where
  token : Option AppToken := none
  stateSaved : Bool := false
  backgroundReady : Bool := false
  title : Option String := none
  subtitle : Option String := none
  resumePayload : Option Payload := none

namespace Milestones

/-- The milestones that `body` leaves, in `enrich_milestones`. -/
def record (milestones : Milestones Payload) (body : LifecycleEventBody Payload) : Milestones Payload :=
  let milestones := if milestones.token = some body.token then milestones else { token := some body.token }
  match body.event with
  | .stateSaved resumePayload =>
    { milestones with stateSaved := true, resumePayload := resumePayload.or milestones.resumePayload }
  | .backgroundReady title subtitle resumePayload =>
    { milestones with
      backgroundReady := true
      title := some title
      subtitle := some subtitle
      resumePayload := resumePayload.or milestones.resumePayload }
  | _ => milestones

/-- What `enrich_milestones` puts into the object. -/
def enrich (milestones : Milestones Payload) (status : StatusMap Payload) : StatusMap Payload :=
  ((((status.insert .stateSaved (.flag milestones.stateSaved)).insert .backgroundReady
    (.flag milestones.backgroundReady)).insertOptional .title (milestones.title.map .text)).insertOptional .subtitle
    (milestones.subtitle.map .text)).insertOptional .resumePayload (milestones.resumePayload.map .payload)

end Milestones

/-! ### Its text -/

/-- What `serde_json` writes for a character of a string. -/
def escape (c : Char) : List UInt8 :=
  if c = '"' then [92, 34]
  else if c = '\\' then [92, 92]
  else if c.toNat = 8 then [92, 98]
  else if c.toNat = 12 then [92, 102]
  else if c = '\n' then [92, 110]
  else if c = '\r' then [92, 114]
  else if c = '\t' then [92, 116]
  else if c.toNat < 32 then [92, 117, 48, 48, 48 + UInt8.ofNat (c.toNat / 16), hex (c.toNat % 16)]
  else String.utf8EncodeChar c
where
  hex (n : Nat) : UInt8 := if n < 10 then UInt8.ofNat (48 + n) else UInt8.ofNat (87 + n)

def textBytes (text : String) : List UInt8 := 34 :: text.toList.flatMap escape ++ [34]

def digits (n : Nat) : List UInt8 := (Nat.toDigits 10 n).map fun c => UInt8.ofNat c.toNat

variable (payloadBytes : Payload → List UInt8)

def StatusValue.bytes : StatusValue Payload → List UInt8
  | null => [110, 117, 108, 108]
  | flag true => [116, 114, 117, 101]
  | flag false => [102, 97, 108, 115, 101]
  | number (.ofNat n) => digits n
  | number (.negSucc n) => 45 :: digits (n + 1)
  | text value => textBytes value
  | payload value => payloadBytes value

def joined : List (List UInt8) → List UInt8
  | [] => []
  | [member] => member
  | member :: rest => member ++ 44 :: joined rest

def StatusField.member (field : StatusField) (value : StatusValue Payload) : List UInt8 :=
  textBytes field.name ++ 58 :: value.bytes payloadBytes

/-- What `write_temporary` writes. -/
def StatusMap.bytes (status : StatusMap Payload) : List UInt8 :=
  123 :: joined (StatusField.all.filterMap fun field => (status field).map (field.member payloadBytes)) ++ [125, 10]

/-- The size of a member, with the comma after it. -/
def StatusField.size (field : StatusField) (value : StatusValue Payload) : Nat :=
  (textBytes field.name).length + (value.bytes payloadBytes).length + 2

def StatusField.sizeOf? (field : StatusField) (value : Option (StatusValue Payload)) : Nat :=
  (value.map (field.size payloadBytes)).getD 0

variable {payloadBytes}

/-- The sum of the sizes of a list's items. -/
def total {α : Type} (size : α → Nat) : List α → Nat
  | [] => 0
  | item :: rest => size item + total size rest

theorem joined_length {members : List (List UInt8)} (some : members ≠ []) :
    (joined members).length + 1 = total (fun member => member.length + 1) members := by
  induction members with
  | nil => exact (some rfl).elim
  | cons member rest ih =>
    cases rest with
    | nil => simp [joined, total]
    | cons second rest =>
      have tail := ih (by simp)
      simp only [joined, List.length_append, List.length_cons, total] at tail ⊢
      omega

theorem members_size (status : StatusMap Payload) (fields : List StatusField) :
    total (fun member => member.length + 1) (fields.filterMap fun field => (status field).map (field.member payloadBytes)) =
      total (fun field => field.sizeOf? payloadBytes (status field)) fields := by
  induction fields with
  | nil => rfl
  | cons field fields ih =>
    cases held : status field with
    | none => simpa [held, StatusField.sizeOf?, total] using ih
    | some value =>
      simp only [List.filterMap_cons, held, Option.map_some, total, ih, StatusField.sizeOf?,
        Option.getD_some, StatusField.size, StatusField.member, List.length_append, List.length_cons]
      omega

theorem bytes_length {status : StatusMap Payload} {field : StatusField} (member : field ∈ StatusField.all)
    (held : (status field).isSome) :
    (status.bytes payloadBytes).length = 2 + total (fun field => field.sizeOf? payloadBytes (status field)) StatusField.all := by
  obtain ⟨value, held⟩ := Option.isSome_iff_exists.mp held
  have some : (StatusField.all.filterMap fun field => (status field).map (field.member payloadBytes)) ≠ [] := by
    intro none
    have absent := List.filterMap_eq_nil_iff.mp none field member
    simp [held] at absent
  have sizes := joined_length some
  rw [members_size] at sizes
  simp only [StatusMap.bytes, List.cons_append, List.length_cons, List.length_append, List.length_nil]
  omega

/-! ## What it says -/

/-- The object that is published for an event after `milestones`. -/
def Milestones.status (milestones : Milestones Payload) (envelope : Envelope (LifecycleEventBody Payload)) : StatusMap Payload :=
  (milestones.record envelope.body).enrich (statusValue envelope)

/-- What stays from the events before under the same token. -/
def Milestones.kept {α : Type} (milestones : Milestones Payload) (token : AppToken) (value : Option α) : Option α :=
  if milestones.token = some token then value else none

namespace LifecycleEvent

def isStateSaved : LifecycleEvent Payload → Bool
  | stateSaved _ => true
  | _ => false

def isBackgroundReady : LifecycleEvent Payload → Bool
  | backgroundReady .. => true
  | _ => false

def title? : LifecycleEvent Payload → Option String
  | backgroundReady title _ _ => some title
  | _ => none

def subtitle? : LifecycleEvent Payload → Option String
  | backgroundReady _ subtitle _ => some subtitle
  | _ => none

def resumePayload? : LifecycleEvent Payload → Option Payload
  | backgroundReady _ _ resumePayload => resumePayload
  | stateSaved resumePayload => resumePayload
  | _ => none

end LifecycleEvent

/-- The object by its members: each is the event's own, or stays from an earlier event. -/
def contents (milestones : Milestones Payload) (envelope : Envelope (LifecycleEventBody Payload)) : StatusMap Payload :=
  let token := envelope.body.token
  let event := envelope.body.event
  fun
  | .schema => some (.number 1)
  | .appId => some (.text token.appId.value)
  | .generation => some (.number token.generation)
  | .foregroundEpoch => some (.number token.foregroundEpoch)
  | .leaseId => some ((token.leaseId.map fun lease => .number lease).getD .null)
  | .requestId => some (.text envelope.requestId)
  | .event => some (.text event.name)
  | .stateSaved => some (.flag (event.isStateSaved || (milestones.kept token (some milestones.stateSaved)).getD false))
  | .backgroundReady =>
    some (.flag (event.isBackgroundReady || (milestones.kept token (some milestones.backgroundReady)).getD false))
  | .title => (event.title?.or (milestones.kept token milestones.title)).map .text
  | .subtitle => (event.subtitle?.or (milestones.kept token milestones.subtitle)).map .text
  | .resumePayload => (event.resumePayload?.or (milestones.kept token milestones.resumePayload)).map .payload
  | .firstFrameSequence => match event with
    | .ready firstFrameSequence => firstFrameSequence.map fun sequence => .number sequence
    | _ => none
  | .exitCode => match event with
    | .shutdownComplete exitCode => some (.number exitCode)
    | _ => none
  | .stage => match event with
    | .failed stage .. => some (.text stage.text)
    | _ => none
  | .message => match event with
    | .failed _ message _ => some (.text message)
    | _ => none
  | .retryable => match event with
    | .failed _ _ retryable => some (.flag retryable)
    | _ => none

variable (payloadBytes) in
/-- The size of the file that is published for an event after `milestones`. -/
def statusSize (milestones : Milestones Payload) (envelope : Envelope (LifecycleEventBody Payload)) : Nat :=
  2 + total (fun field => field.sizeOf? payloadBytes (contents milestones envelope field)) StatusField.all

section
variable (milestones : Milestones Payload) (body : LifecycleEventBody Payload)

theorem record_stateSaved : (milestones.record body).stateSaved =
    (body.event.isStateSaved || (milestones.kept body.token (some milestones.stateSaved)).getD false) := by
  by_cases current : milestones.token = some body.token <;> cases event : body.event <;>
    simp [Milestones.record, Milestones.kept, LifecycleEvent.isStateSaved, current, event]

theorem record_backgroundReady : (milestones.record body).backgroundReady =
    (body.event.isBackgroundReady || (milestones.kept body.token (some milestones.backgroundReady)).getD false) := by
  by_cases current : milestones.token = some body.token <;> cases event : body.event <;>
    simp [Milestones.record, Milestones.kept, LifecycleEvent.isBackgroundReady, current, event]

theorem record_title : (milestones.record body).title = body.event.title?.or (milestones.kept body.token milestones.title) := by
  by_cases current : milestones.token = some body.token <;> cases event : body.event <;>
    simp [Milestones.record, Milestones.kept, LifecycleEvent.title?, current, event]

theorem record_subtitle :
    (milestones.record body).subtitle = body.event.subtitle?.or (milestones.kept body.token milestones.subtitle) := by
  by_cases current : milestones.token = some body.token <;> cases event : body.event <;>
    simp [Milestones.record, Milestones.kept, LifecycleEvent.subtitle?, current, event]

theorem record_resumePayload : (milestones.record body).resumePayload =
    body.event.resumePayload?.or (milestones.kept body.token milestones.resumePayload) := by
  by_cases current : milestones.token = some body.token <;> cases event : body.event <;>
    simp [Milestones.record, Milestones.kept, LifecycleEvent.resumePayload?, current, event]

end

/-- A value that is put in a second time. -/
theorem map_or_again {α β : Type} (f : α → β) (first second : Option α) :
    ((first.or second).map f).or (first.map f) = (first.or second).map f := by
  cases first <;> simp

theorem status_contents (milestones : Milestones Payload) {envelope : Envelope (LifecycleEventBody Payload)}
    (published : envelope.body.event.isNotification = false) : milestones.status envelope = contents milestones envelope := by
  funext field
  obtain ⟨protocol, requestId, ⟨token, event⟩⟩ := envelope
  cases event with
  | notification title body => simp [LifecycleEvent.isNotification] at published
  | _ =>
    cases field <;>
      simp [Milestones.status, Milestones.enrich, statusValue, insertEventFields, contents, record_stateSaved,
        record_backgroundReady, record_title, record_subtitle, record_resumePayload, LifecycleEvent.name,
        LifecycleEvent.title?, LifecycleEvent.subtitle?, LifecycleEvent.resumePayload?, StatusMap.new, map_or_again]

variable (payloadBytes) in
theorem status_length (milestones : Milestones Payload) {envelope : Envelope (LifecycleEventBody Payload)}
    (published : envelope.body.event.isNotification = false) :
    ((milestones.status envelope).bytes payloadBytes).length = statusSize payloadBytes milestones envelope := by
  rw [status_contents milestones published]
  exact bytes_length (show StatusField.schema ∈ StatusField.all by simp [StatusField.all]) rfl

/-! ## The reader -/

def maxStatusBytes : Nat := 64 * 1024

/-- `LifecycleStatus`, of what is used of it. -/
structure LifecycleStatus where
  schema : Nat
  appId : AppId
  generation : Nat
  foregroundEpoch : Nat
  leaseId : Option Nat
  requestId : String
  event : String
  firstFrameSequence : Option Nat
  stage : Option String
  message : Option String
  stateSaved : Bool
  backgroundReady : Bool
  title : Option String
  subtitle : Option String
  deriving DecidableEq

namespace StatusValue

def natural? : StatusValue Payload → Option Nat
  | number (.ofNat n) => some n
  | _ => none

def text? : StatusValue Payload → Option String
  | text value => some value
  | _ => none

def flag? : StatusValue Payload → Option Bool
  | flag value => some value
  | _ => none

/-- An optional member of a `serde` structure: `null` is as good as none. -/
def orDefault {α : Type} (read : StatusValue Payload → Option α) : Option (StatusValue Payload) → Option (Option α)
  | none | some null => some none
  | some value => (read value).map some

end StatusValue

/-- `Deserialize` of a status, from the members of an object. -/
def LifecycleStatus.ofMembers (status : StatusMap Payload) : Option LifecycleStatus := do
  return {
    schema := ← (← status .schema).natural?
    appId := ← (AppId.new (← (← status .appId).text?)).toOption
    generation := ← (← status .generation).natural?
    foregroundEpoch := ← (← status .foregroundEpoch).natural?
    leaseId := ← StatusValue.orDefault StatusValue.natural? (status .leaseId)
    requestId := ← (← status .requestId).text?
    event := ← (← status .event).text?
    firstFrameSequence := ← StatusValue.orDefault StatusValue.natural? (status .firstFrameSequence)
    stage := ← StatusValue.orDefault StatusValue.text? (status .stage)
    message := ← StatusValue.orDefault StatusValue.text? (status .message)
    stateSaved := ← (status .stateSaved).elim (some false) StatusValue.flag?
    backgroundReady := ← (status .backgroundReady).elim (some false) StatusValue.flag?
    title := ← StatusValue.orDefault StatusValue.text? (status .title)
    subtitle := ← StatusValue.orDefault StatusValue.text? (status .subtitle) }

/-- The check of `read_status` of the file's metadata. -/
def inspectable : Option (List UInt8) → Bool
  | some bytes => !bytes.isEmpty && decide (bytes.length ≤ maxStatusBytes)
  | none => false

variable (parse : List UInt8 → Option (StatusMap Payload))

/-- The rest of `read_status`, of the file as it is read. -/
def parseStatus (file : Option (List UInt8)) : Option LifecycleStatus := do
  let status ← LifecycleStatus.ofMembers (← parse (← file))
  if status.schema ≠ 1 ∨ status.generation = 0 ∨ status.foregroundEpoch = 0 ∨ status.requestId.isEmpty ∨
      status.event.isEmpty ∨ status.leaseId = some 0 ∨ status.firstFrameSequence = some 0 then none
  else some status

/-- `read_status`, of a file that stays. -/
def readStatus (file : Option (List UInt8)) : Option LifecycleStatus :=
  if inspectable file then parseStatus parse file else none

/-- What `wait_status` makes of one status: nothing, the application's failure, or success. -/
def LifecycleStatus.verdict (status : LifecycleStatus) (token : AppToken) (expectedEvent : String) (requireParkMilestones : Bool) :
    Option (Except (String × String) LifecycleStatus) :=
  if status.appId = token.appId ∧ status.generation = token.generation ∧ status.foregroundEpoch = token.foregroundEpoch ∧
      status.leaseId = token.leaseId ∧ token.leaseId.isSome then
    if status.event = "failed" then
      some (.error (status.stage.getD "runtime", status.message.getD "unspecified failure"))
    else if (requireParkMilestones ∧ status.stateSaved ∧ status.backgroundReady) ∨
        (requireParkMilestones = false ∧ status.event = expectedEvent) then some (.ok status)
    else none
  else none

end Remagic.Lifecycle
