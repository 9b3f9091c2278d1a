import Remagic.AgentConnections
import Remagic.Fallible

/-!
# Messages of the agent's clients

Every message has a header, and each kind has limits of its own. The name of a turn is
made of the application's identifier and the request's, and a client cancels the turn by
that name, which has the same limit as the request's alone.
-/

namespace Remagic.Agent

def agentProtocolV1 : UInt16 := 1

structure AgentHistoryTurn where
  user : String
  assistant : String
  deriving DecidableEq

/-- Without its parameters, which are not looked at. -/
structure AgentToolDefinition where
  name : String
  description : String := ""
  deriving DecidableEq

/-- What a message asks for, beside its header. -/
inductive AgentRequest where
  | status
  | startTurn (profile : AgentProfile) (lane : AgentLane) (systemPrompt : String) (input : String)
      (history : List AgentHistoryTurn) (tools : List AgentToolDefinition)
  | cancelTurn (turnId : String)
  | toolResult (turnId : String) (toolCallId : String) (isError : Bool)
  | reloadProfile (profile : Option AgentProfile)
  | newSession
  deriving DecidableEq

structure AgentClientMessage where
  protocol : UInt16
  requestId : String
  appId : AppId
  clientToken : String
  body : AgentRequest
  deriving DecidableEq

inductive AgentValidationError where
  | unsupportedProtocol (protocol : UInt16)
  | invalidField (field : String)
  | requestTooLarge
  deriving DecidableEq

/-! ## Checks -/

/-- The bytes that a name may have: all of them are ASCII. -/
def nameByte (c : Char) : Bool := c.isAlphanum || c == '-' || c == '_' || c == '.' || c == ':' || c == '/'

def IsName (value : String) (maximum : Nat) : Prop :=
  value.isEmpty = false ∧ value.utf8ByteSize ≤ maximum ∧ value.toList.all nameByte = true

instance (value : String) (maximum : Nat) : Decidable (IsName value maximum) :=
  inferInstanceAs (Decidable (_ ∧ _ ∧ _))

def validateName (field value : String) (maximum : Nat) : Except AgentValidationError Unit :=
  if IsName value maximum then .ok () else .error (.invalidField field)

def hexDigit (c : Char) : Bool := c.isDigit || ('a' ≤ c && c ≤ 'f') || ('A' ≤ c && c ≤ 'F')

def validateToken (value : String) : Except AgentValidationError Unit :=
  if value.utf8ByteSize = 64 ∧ value.toList.all hexDigit then .ok () else .error (.invalidField "client_token")

def thinkingLevels : List String := ["off", "minimal", "low", "medium", "high", "xhigh", "max"]

def AgentProfile.validate (profile : AgentProfile) : Except AgentValidationError Unit := do
  validateName "provider" profile.provider 64
  validateName "model" profile.model 128
  if profile.thinking ∉ thinkingLevels then throw (.invalidField "thinking")

/-- The characters that `trim` takes away. -/
def isSpace (c : Char) : Bool :=
  let code := c.toNat
  (9 ≤ code && code ≤ 13) || code == 0x20 || code == 0x85 || code == 0xA0 || code == 0x1680 ||
    (0x2000 ≤ code && code ≤ 0x200A) || code == 0x2028 || code == 0x2029 || code == 0x202F || code == 0x205F ||
    code == 0x3000

def AgentRequest.validate : AgentRequest → Except AgentValidationError Unit
  | .startTurn profile _ systemPrompt input history tools => do
    profile.validate
    if input.toList.all isSpace || input.utf8ByteSize > 256 * 1024 then throw (.invalidField "input")
    if systemPrompt.utf8ByteSize > 64 * 1024 || history.length > 64 || tools.length > 32 then throw .requestTooLarge
    for tool in tools do
      validateName "tool.name" tool.name 96
  | .cancelTurn turnId => validateName "turn_id" turnId 128
  | .toolResult turnId toolCallId _ => do
    validateName "turn_id" turnId 128
    validateName "tool_call_id" toolCallId 128
  | .reloadProfile (some profile) => profile.validate
  | .reloadProfile none | .status | .newSession => .ok ()

/-- What every message is checked for first. -/
def AgentClientMessage.validateHeader (message : AgentClientMessage) : Except AgentValidationError Unit := do
  if message.protocol ≠ agentProtocolV1 then throw (.unsupportedProtocol message.protocol)
  validateName "request_id" message.requestId 128
  validateToken message.clientToken

def AgentClientMessage.validate (message : AgentClientMessage) : Except AgentValidationError Unit := do
  message.validateHeader
  message.body.validate

/-- The turn that `start_turn` asks of the state, for a client of the principal. -/
def AgentClientMessage.startRequest (principal : String) (message : AgentClientMessage) : Option StartRequest :=
  match message.body with
  | .startTurn profile lane systemPrompt _ _ _ =>
    some { app := message.appId, requestId := message.requestId, profile, systemPrompt, lane, principal }
  | _ => none

/-! ## Names of turns -/

theorem validateName_ok {field value : String} {maximum : Nat} :
    validateName field value maximum = .ok () ↔ IsName value maximum := by
  unfold validateName
  by_cases name : IsName value maximum
  · rw [if_pos name]
    exact ⟨fun _ => name, fun _ => rfl⟩
  · rw [if_neg name]
    exact ⟨nofun, fun absurd => (name absurd).elim⟩

theorem idByte_name {c : Char} (byte : idByte c = true) : nameByte c = true := by
  have spelled : c.isAlphanum = (c.isUpper || c.isLower || c.isDigit) := rfl
  simp only [idByte, Bool.or_eq_true] at byte
  rcases byte with (lower | digit) | hyphen
  · simp [nameByte, spelled, lower]
  · simp [nameByte, spelled, digit]
  · simp [nameByte, hyphen]

theorem appId_bytes_name (appId : AppId) : appId.value.toList.all nameByte = true := by
  have valid := appId.valid
  simp only [validId, Bool.and_eq_true] at valid
  exact List.all_eq_true.mpr fun c member => idByte_name (List.all_eq_true.mp valid.1.1.2 c member)

theorem turnId_size (request : StartRequest) :
    request.turnId.utf8ByteSize = request.app.value.utf8ByteSize + 1 + request.requestId.utf8ByteSize := by
  unfold StartRequest.turnId
  rw [String.utf8ByteSize_append, String.utf8ByteSize_append]
  rfl

variable {request : StartRequest}

/-- The turn's name is one if and only if it is short enough. -/
theorem turnId_name {limit : Nat} (named : IsName request.requestId limit) (maximum : Nat) :
    IsName request.turnId maximum ↔
      request.app.value.utf8ByteSize + 1 + request.requestId.utf8ByteSize ≤ maximum := by
  unfold IsName
  rw [turnId_size]
  constructor
  · exact fun name => name.2.1
  · intro short
    refine ⟨?_, short, ?_⟩
    · have filled : request.turnId ≠ "" := by
        intro empty
        have size := turnId_size request
        rw [empty] at size
        have none : "".utf8ByteSize = 0 := rfl
        omega
      simpa [String.isEmpty_iff] using filled
    · unfold StartRequest.turnId
      rw [String.toList_append, String.toList_append, List.all_append, List.all_append, appId_bytes_name, named.2.2]
      decide

/-! ## Cancelling a turn -/

/-- A message that cancels the turn of the request, with a header that is valid. -/
structure Cancels (request : StartRequest) (message : AgentClientMessage) : Prop where
  header : message.validateHeader = .ok ()
  app : message.appId = request.app
  body : message.body = .cancelTurn request.turnId

/-- The turn that the request starts is cancelled by its name: whatever message does so is valid, and
    raises the turn's signal as long as the turn is active. -/
def Cancellable (request : StartRequest) : Prop :=
  ∀ message, Cancels request message → message.validate = .ok () ∧
    ∀ (actions : List Action) (c : Channel) (turn : Turn), turn.app = request.app → turn.id = request.turnId →
      (actions.foldl AgentSystem.next {}).Unfinished c turn →
        c ∈ ((actions.foldl AgentSystem.next {}).next (.cancel message.appId request.turnId)).raised

theorem validate_cancel {message : AgentClientMessage} (cancels : Cancels request message) :
    message.validate = .ok () ↔ IsName request.turnId 128 := by
  unfold AgentClientMessage.validate
  rw [cancels.header, cancels.body]
  exact validateName_ok

theorem startRequest_header {message : AgentClientMessage} {principal : String} (valid : message.validate = .ok ())
    (starts : message.startRequest principal = some request) :
    message.validateHeader = .ok () ∧ message.appId = request.app ∧ IsName request.requestId 128 := by
  obtain ⟨⟨⟩, header, -⟩ := Fallible.ok_of_bind valid
  have named := header
  obtain ⟨-, named⟩ := Fallible.ok_of_guard named
  obtain ⟨⟨⟩, named, -⟩ := Fallible.ok_of_bind named
  have named := validateName_ok.mp named
  unfold AgentClientMessage.startRequest at starts
  split at starts
  · cases starts
    exact ⟨header, rfl, named⟩
  · cases starts

/-- A turn that is started for a valid message is cancellable if and only if the application's
    identifier and the request's leave room for the colon between them. -/
theorem started_turn_cancellable_iff {message : AgentClientMessage} {principal : String} {request : StartRequest}
    (valid : message.validate = .ok ()) (starts : message.startRequest principal = some request) :
    Cancellable request ↔ request.app.value.utf8ByteSize + request.requestId.utf8ByteSize ≤ 127 := by
  obtain ⟨header, app, named⟩ := startRequest_header valid starts
  have fits := turnId_name named 128
  constructor
  · intro cancellable
    have cancels : Cancels request { message with body := .cancelTurn request.turnId } := ⟨header, app, rfl⟩
    have short := fits.mp ((validate_cancel cancels).mp (cancellable _ cancels).1)
    omega
  · intro short other cancels
    refine ⟨(validate_cancel cancels).mpr (fits.mpr (by omega)), fun actions c turn same id unfinished => ?_⟩
    rw [cancels.app, ← same, ← id]
    exact next_cancel (sound_run actions) unfinished

/-- A message that starts a turn in the paper application, with an identifier of its own. -/
def paperStart (requestId : String) : AgentClientMessage :=
  { protocol := 1, requestId, appId := magicpaper, clientToken := "".pushn 'a' 64
    body := .startTurn deepseek .interactive "" "Hello" [] [] }

def paperRequest (requestId : String) : StartRequest :=
  { app := magicpaper, requestId, profile := deepseek, lane := .interactive, principal := "foreground" }

theorem paperStart_starts (requestId : String) :
    (paperStart requestId).startRequest "foreground" = some (paperRequest requestId) := rfl

theorem paperStart_valid : (paperStart "r1").validate = .ok () := by decide +kernel

theorem started_turn_cancellable_iff_paper :
    Cancellable (paperRequest "r1") ↔
      (paperRequest "r1").app.value.utf8ByteSize + (paperRequest "r1").requestId.utf8ByteSize ≤ 127 :=
  started_turn_cancellable_iff paperStart_valid (paperStart_starts _)

/-- An identifier of the greatest length that a request may have. -/
def longId : String := "".pushn 'r' 128

theorem longStart_valid : (paperStart longId).validate = .ok () := by decide +kernel

theorem long_request_uncancellable :
    (paperStart longId).validate = .ok () ∧ (paperStart longId).startRequest "foreground" = some (paperRequest longId) ∧
      ¬ Cancellable (paperRequest longId) := by
  refine ⟨longStart_valid, paperStart_starts _, fun cancellable => ?_⟩
  have cancels : Cancels (paperRequest longId)
      { paperStart longId with body := .cancelTurn (paperRequest longId).turnId } := ⟨by decide +kernel, rfl, rfl⟩
  have accepted := (cancellable _ cancels).1
  revert accepted
  decide +kernel

end Remagic.Agent
