import Remagic.Fallible
import Remagic.Json
import Remagic.LifecycleChannel
import Remagic.LifecycleStatus

/-!
# Packets of lifecycle events

An application sends its events in packets: one event with its length before it, or a
line for each. The runner decodes a whole packet at once and persists its events one by
one. What it cannot decode ends its loop.
-/

namespace Remagic.Lifecycle
open Supervisor Json
open Fallible (ok_of_bind ok_of_guard mapM_ok)

inductive BridgeError where
  | json
  | protocol
  | lifecycle
  | disconnected
  | frameLength (length : Nat)
  | invalidEnvelope (text : String)
  | missingField (key : String)
  | invalidField (key : String)
  | unknownEvent (kind : String)
  deriving DecidableEq

/-! ## Frames -/

def decodeLengthPrefixed (packet : List UInt8) : Except BridgeError (List (List UInt8)) := do
  if packet.length < 4 then throw (.invalidEnvelope "truncated frame header")
  let length := ofBe32 packet
  if length = 0 ∨ length > maxFrame ∨ packet.length ≠ length + 4 then throw (.frameLength length)
  return [packet.drop 4]

def newline : UInt8 := 10

def carriageReturn : UInt8 := 13

/-- `strip_suffix`. -/
def stripReturn (line : List UInt8) : List UInt8 := if line.getLast? = some carriageReturn then line.dropLast else line

/-- The lines that are not empty, without their ends. -/
def filled (lines : List (List UInt8)) : List (List UInt8) := (lines.filter fun line => line ≠ []).map stripReturn

def decodeNewline (packet : List UInt8) : Except BridgeError (List (List UInt8)) := do
  if packet.length > maxFrame + 1 then throw (.frameLength packet.length)
  if packet.getLast? ≠ some newline then throw (.invalidEnvelope "unterminated newline lifecycle frame")
  let payloads := filled (packet.splitOn newline)
  if payloads = [] then throw (.invalidEnvelope "empty newline frame")
  if payloads.any fun payload => payload.length > maxFrame then throw (.frameLength (maxFrame + 1))
  return payloads

def decodePacket : ChildTransport → List UInt8 → Except BridgeError (List (List UInt8))
  | .lengthPrefixed => decodeLengthPrefixed
  | .newline => decodeNewline

/-! ## Events -/

abbrev Fields := List (String × Value)

/-- The members of an event's body. The source removes each that it takes, and takes none twice. -/
def takeOptionalString (fields : Fields) (key : String) : Option String := (fields.lookup key).bind Value.asStr

def takeString (fields : Fields) (key : String) : Except BridgeError String :=
  match takeOptionalString fields key with
  | some value => .ok value
  | none => .error (.missingField key)

/-- `parse::<u64>`. -/
def parseU64 (text : String) : Option Nat :=
  let digits := match text.toList with
    | '+' :: rest => rest
    | all => all
  if digits ≠ [] ∧ digits.all Char.isDigit then
    let value := digits.foldl (fun value c => value * 10 + (c.toNat - 48)) 0
    if value ≤ u64Max then some value else none
  else none

def takeOptionalU64 (fields : Fields) (key : String) : Except BridgeError (Option Nat) :=
  match fields.lookup key with
  | none | some .null => .ok none
  | some (.number value) => match value.asU64 with
    | some value => .ok (some value)
    | none => .error (.invalidField key)
  | some (.string value) => match parseU64 value with
    | some value => .ok (some value)
    | none => .error (.invalidField key)
  | some _ => .error (.invalidField key)

def takeU64 (fields : Fields) (key : String) : Except BridgeError Nat := do
  match ← takeOptionalU64 fields key with
  | some value => return value
  | none => throw (.missingField key)

def takeOptionalI32 (fields : Fields) (key : String) : Except BridgeError (Option Int) :=
  match fields.lookup key with
  | none | some .null => .ok none
  | some (.number value) => match value.asI32 with
    | some value => .ok (some value)
    | none => .error (.invalidField key)
  | some _ => .error (.invalidField key)

def takePayload (fields : Fields) : Option Value := (fields.lookup "resume_payload").filter fun value => !value.isNull

def parseStage : String → Option LifecycleStage
  | "start" => some .start
  | "foreground" => some .foreground
  | "background" => some .background
  | "save" => some .save
  | "shutdown" => some .shutdown
  | "runtime" => some .runtime
  | _ => none

def stageForOperation : String → Option LifecycleStage
  | "start" | "open_path" => some .start
  | "enter_foreground" => some .foreground
  | "enter_background" => some .background
  | "save" => some .save
  | "shutdown" => some .shutdown
  | _ => none

def decodeFailure (fields : Fields) : LifecycleEvent Value :=
  let stage := ((takeOptionalString fields "stage").bind parseStage).or
    ((takeOptionalString fields "operation").bind stageForOperation)
  let message := (takeOptionalString fields "message").or (takeOptionalString fields "reason")
  .failed (stage.getD .runtime) (message.getD "application reported an unspecified failure")
    (((fields.lookup "retryable").bind Value.asBool).getD false)

def compatibilityEvent (kind : String) (fields : Fields) : Except BridgeError (LifecycleEvent Value) := do
  match kind with
  | "ready" | "foreground_ready" => return .ready (← takeOptionalU64 fields "first_frame_sequence")
  | "background_ready" =>
    return .backgroundReady ((takeOptionalString fields "title").getD "") ((takeOptionalString fields "subtitle").getD "")
      (takePayload fields)
  | "state_saved" => return .stateSaved (takePayload fields)
  | "shutdown_complete" => return .shutdownComplete ((← takeOptionalI32 fields "exit_code").getD 0)
  | "failed" => return decodeFailure fields
  | "notification" =>
    return .notification ((takeOptionalString fields "title").getD "") ((takeOptionalString fields "body").getD "")
  | kind => throw (.unknownEvent kind)

def compatibilityToken (fields : Fields) : Except BridgeError AppToken := do
  match AppId.new (← takeString fields "app_id") with
  | .error _ => throw (.invalidEnvelope "invalid compatibility app id")
  | .ok appId =>
    return ⟨appId, ← takeU64 fields "generation", (← takeOptionalU64 fields "foreground_epoch").getD 0,
      ← takeOptionalU64 fields "lease_id"⟩

def decodeCompatibilityEvent (envelope : Envelope Value) : Except BridgeError (Envelope (LifecycleEventBody Value)) := do
  match envelope.body.asObject with
  | none => throw (.invalidEnvelope "event body is not an object")
  | some fields =>
    let token ← compatibilityToken fields
    let kind ← takeString fields "event"
    let event ← compatibilityEvent kind fields
    let body : LifecycleEventBody Value := { token, event }
    if !body.valid then throw .lifecycle
    return { protocol := envelope.protocol, requestId := envelope.requestId, body }

/-- What `serde_json::from_slice` makes of a payload: an event's envelope, or an envelope of whatever
    value. -/
structure Reader where
  event : List UInt8 → Option (Envelope (LifecycleEventBody Value))
  value : List UInt8 → Option (Envelope Value)

def decodeEvent (reader : Reader) (payload : List UInt8) : Except BridgeError (Envelope (LifecycleEventBody Value)) := do
  match reader.event payload with
  | some envelope =>
    if !envelope.validHeader then throw .protocol
    if !envelope.body.valid then throw .lifecycle
    return envelope
  | none =>
    match reader.value payload with
    | none => throw .json
    | some envelope =>
      if !envelope.validHeader then throw .protocol
      decodeCompatibilityEvent envelope

/-! ## The loop -/

/-- `receive_events`. -/
def receiveEvents (reader : Reader) (transport : ChildTransport) (packet : List UInt8) :
    Except BridgeError (List (Envelope (LifecycleEventBody Value))) := do
  if packet = [] then throw .disconnected
  let payloads ← decodePacket transport packet
  payloads.mapM (decodeEvent reader)

/-- A packet that arrives, and the runner's token by the time of each of its payloads, which
    dispatches may move on in between. -/
structure Arrival where
  packet : List UInt8
  current : Nat → AppToken

/-- `persist_current_event`, of one event after another. -/
def persist (current : Nat → AppToken) (envelopes : List (Envelope (LifecycleEventBody Value))) :
    List (Envelope (LifecycleEventBody Value)) :=
  (envelopes.zipIdx.filter fun (envelope, i) => eventMatchesToken envelope.body.token (current i)).map Prod.fst

/-- `forward_lifecycle_events`: what was persisted, and with which error the loop was left. -/
structure Forwarder where
  persisted : List (Envelope (LifecycleEventBody Value)) := []
  stopped : Option BridgeError := none

def Forwarder.next (reader : Reader) (transport : ChildTransport) (forwarder : Forwarder) (arrival : Arrival) : Forwarder :=
  if forwarder.stopped.isSome then forwarder
  else match receiveEvents reader transport arrival.packet with
    | .error error => { forwarder with stopped := some error }
    | .ok envelopes => { forwarder with persisted := forwarder.persisted ++ persist arrival.current envelopes }

/-! ## What the application has said -/

/-- The payloads of a packet that are whole, whatever stands beside them. -/
def frames (transport : ChildTransport) (packet : List UInt8) : List (List UInt8) :=
  match transport with
  | .lengthPrefixed => (decodeLengthPrefixed packet).toOption.getD []
  | .newline => if packet.length > maxFrame + 1 then [] else filled (packet.splitOn newline).dropLast

section
variable (reader : Reader)

/-- The event of a payload, if it can be decoded and is the token's. -/
def eventOf (payload : List UInt8) (current : AppToken) : Option (Envelope (LifecycleEventBody Value)) :=
  match decodeEvent reader payload with
  | .ok envelope => if eventMatchesToken envelope.body.token current then some envelope else none
  | .error _ => none

/-- The events of a packet that are to be persisted. -/
def Arrival.events (transport : ChildTransport) (arrival : Arrival) : List (Envelope (LifecycleEventBody Value)) :=
  (frames transport arrival.packet).zipIdx.filterMap fun (payload, i) => eventOf reader payload (arrival.current i)

/-- The packet is left as a whole: it or one of its payloads cannot be decoded. -/
def Fails (transport : ChildTransport) (arrival : Arrival) : Prop :=
  ∃ error, receiveEvents reader transport arrival.packet = .error error

end

variable {reader : Reader} {transport : ChildTransport} {payloads : List (List UInt8)}

theorem filled_empty (lines : List (List UInt8)) : filled (lines ++ [[]]) = filled lines := by
  simp [filled]

theorem decodeNewline_frames {packet : List UInt8} (ok : decodeNewline packet = .ok payloads) :
    payloads = frames .newline packet := by
  obtain ⟨short, ok⟩ := ok_of_guard ok
  obtain ⟨ended, ok⟩ := ok_of_guard ok
  obtain ⟨-, ok⟩ := ok_of_guard ok
  obtain ⟨-, ok⟩ := ok_of_guard ok
  cases ok
  obtain ⟨body, rfl⟩ := List.getLast?_eq_some_iff.mp (not_not.mp ended)
  unfold frames
  rw [if_neg short, List.splitOn_append_cons_self, List.splitOn_nil, List.dropLast_concat, filled_empty]

theorem decodePacket_frames {packet : List UInt8} (ok : decodePacket transport packet = .ok payloads) :
    payloads = frames transport packet := by
  cases transport with
  | newline => exact decodeNewline_frames ok
  | lengthPrefixed =>
    have whole : decodeLengthPrefixed packet = .ok payloads := ok
    unfold frames
    rw [whole]
    rfl

/-- What is persisted of payloads that can all be decoded. -/
theorem persist_decoded {envelopes : List (Envelope (LifecycleEventBody Value))}
    (decoded : List.Forall₂ (fun payload envelope => decodeEvent reader payload = .ok envelope) payloads envelopes)
    (current : Nat → AppToken) (k : Nat) :
    ((envelopes.zipIdx k).filter fun (envelope, i) => eventMatchesToken envelope.body.token (current i)).map Prod.fst =
      (payloads.zipIdx k).filterMap fun (payload, i) => eventOf reader payload (current i) := by
  induction decoded generalizing k with
  | nil => rfl
  | @cons payload envelope payloads envelopes one _ ih =>
    have event : eventOf reader payload (current k) =
        if eventMatchesToken envelope.body.token (current k) then some envelope else none := by
      rw [eventOf, one]
    by_cases matching : eventMatchesToken envelope.body.token (current k) = true
    · rw [if_pos matching] at event
      simp only [List.zipIdx_cons, List.filterMap_cons, List.filter_cons, event, matching, if_true, List.map_cons]
      exact congrArg (envelope :: ·) (ih (k + 1))
    · rw [if_neg matching] at event
      simp only [List.zipIdx_cons, List.filterMap_cons, List.filter_cons, event, matching, Bool.false_eq_true, if_false]
      exact ih (k + 1)

theorem receiveEvents_events {arrival : Arrival} {envelopes : List (Envelope (LifecycleEventBody Value))}
    (ok : receiveEvents reader transport arrival.packet = .ok envelopes) :
    persist arrival.current envelopes = arrival.events reader transport := by
  obtain ⟨-, ok⟩ := ok_of_guard ok
  obtain ⟨payloads, framed, ok⟩ := ok_of_bind ok
  rw [persist, Arrival.events, ← decodePacket_frames framed]
  exact persist_decoded (mapM_ok ok) arrival.current 0

/-! ## Every sequence of packets -/

theorem stopped_stays {forwarder : Forwarder} (stopped : forwarder.stopped.isSome = true) (arrivals : List Arrival) :
    arrivals.foldl (Forwarder.next reader transport) forwarder = forwarder := by
  induction arrivals with
  | nil => rfl
  | cons arrival rest ih =>
    rw [List.foldl_cons]
    rw [show forwarder.next reader transport arrival = forwarder from if_pos stopped]
    exact ih

/-- No packet that fails has events to be persisted beside it or after it. -/
def Spared (reader : Reader) (transport : ChildTransport) (arrivals : List Arrival) : Prop :=
  ∀ before bad after, arrivals = before ++ bad :: after → Fails reader transport bad →
    ∀ arrival ∈ bad :: after, arrival.events reader transport = []

theorem spared_cons {arrival : Arrival} (decoded : ¬ Fails reader transport arrival) (rest : List Arrival) :
    Spared reader transport (arrival :: rest) ↔ Spared reader transport rest := by
  constructor
  · intro spared before bad after same fails
    exact spared (arrival :: before) bad after (by rw [same, List.cons_append]) fails
  · intro spared before bad after same fails
    cases before with
    | nil =>
      obtain ⟨rfl, rfl⟩ := List.cons.inj same
      exact absurd fails decoded
    | cons first before =>
      obtain ⟨rfl, later⟩ := List.cons.inj same
      exact spared before bad after later fails

theorem spared_failed {arrival : Arrival} (fails : Fails reader transport arrival) (rest : List Arrival) :
    Spared reader transport (arrival :: rest) ↔ ∀ later ∈ arrival :: rest, later.events reader transport = [] := by
  constructor
  · exact fun spared => spared [] arrival rest rfl fails
  · intro none before bad after same _ later member
    exact none later (same ▸ List.mem_append_right before member)

theorem persists_iff (arrivals : List Arrival) (persisted : List (Envelope (LifecycleEventBody Value))) :
    (arrivals.foldl (Forwarder.next reader transport) { persisted }).persisted =
      persisted ++ arrivals.flatMap (Arrival.events reader transport) ↔ Spared reader transport arrivals := by
  induction arrivals generalizing persisted with
  | nil =>
    constructor
    · intro _ before bad after same
      exact absurd same (by simp)
    · exact fun _ => (List.append_nil persisted).symm
  | cons arrival rest ih =>
    rw [List.foldl_cons, List.flatMap_cons]
    rcases received : receiveEvents reader transport arrival.packet with error | envelopes
    · have fails : Fails reader transport arrival := ⟨error, received⟩
      have next : Forwarder.next reader transport { persisted } arrival = { persisted, stopped := some error } := by
        simp [Forwarder.next, received]
      rw [next, stopped_stays rfl, spared_failed fails, ← List.flatMap_cons, List.self_eq_append_right]
      exact List.flatMap_eq_nil_iff
    · have decoded : ¬ Fails reader transport arrival := by
        rintro ⟨error, failed⟩
        rw [received] at failed
        cases failed
      have next : Forwarder.next reader transport { persisted } arrival =
          { persisted := persisted ++ arrival.events reader transport } := by
        simp [Forwarder.next, received, receiveEvents_events received]
      rw [next, spared_cons decoded, ← List.append_assoc]
      exact ih (persisted ++ arrival.events reader transport)

/-- Every event that an application sends under the current token is persisted in order if and only if
    no packet that fails as a whole has such events beside it or after it. -/
theorem events_persisted_iff (reader : Reader) (transport : ChildTransport) (arrivals : List Arrival) :
    (arrivals.foldl (Forwarder.next reader transport) {}).persisted =
      arrivals.flatMap (Arrival.events reader transport) ↔ Spared reader transport arrivals :=
  persists_iff arrivals []

theorem koreader_valid : validId "koreader" = true := by decide

def koreader : AppId := ⟨"koreader", koreader_valid⟩

def savedText : String :=
  "\x7b\"protocol\":2,\"request_id\":\"k1\",\"body\":\x7b\"app_id\":\"koreader\",\"generation\":1,\"foreground_epoch\":1," ++
    "\"lease_id\":1,\"event\":\"state_saved\"\x7d\x7d"

def savedFields : Fields :=
  [("app_id", .string "koreader"), ("event", .string "state_saved"), ("foreground_epoch", .number (.integer 1)),
    ("generation", .number (.integer 1)), ("lease_id", .number (.integer 1))]

/-- A reader of this one text. -/
def savedReader : Reader where
  event _ := none
  value payload := if payload = savedText.toUTF8.toList then some { requestId := "k1", body := .object savedFields } else none

/-- The reader of documents has saved its state, and its token is the current one. -/
def savedArrival (packet : List UInt8) : Arrival := { packet, current := fun _ => ⟨koreader, 1, 1, some 1⟩ }

/-- A line that is no JSON ends the loop, and the state saved after it is never persisted. -/
theorem stray_packet_silences :
    let arrivals := [savedArrival ("saving".toUTF8.toList ++ [newline]), savedArrival (savedText.toUTF8.toList ++ [newline])]
    (arrivals.foldl (Forwarder.next savedReader (.forApp koreader)) {}).persisted = [] ∧
      (arrivals.flatMap (Arrival.events savedReader (.forApp koreader))).length = 1 := by
  decide +kernel

end Remagic.Lifecycle
