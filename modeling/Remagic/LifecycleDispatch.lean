import Mathlib.Order.Nat
import Remagic.LifecycleChannel

/-!
# Commands of the daemon

The daemon asks the runner to bring its application to the foreground, under a fence of
its own or the next one. The token moves on while the message is made, before it is
checked, measured and sent.
-/

namespace Remagic.Lifecycle
open Supervisor

variable {Environment Payload : Type} (wire : Wire Environment Payload)

namespace LifecycleBridge

/-- `send_command_locked`: whether the message is sent. The socket may refuse its packet. -/
def sendCommandLocked (bridge : LifecycleBridge) (body : LifecycleCommandBody Environment Payload) (taken : Bool) :
    Bool × LifecycleBridge :=
  if body.valid wire then
    ((bridge.packet wire body).isSome && taken, { bridge with nextRequest := bridge.nextRequest + 1 })
  else (false, bridge)

def dispatch (bridge : LifecycleBridge) (command : AppCommand Payload) (taken : Bool) : Bool × LifecycleBridge :=
  match (commandBody bridge.token bridge.shutdownDeadlineMs command :
    Option (LifecycleCommandBody Environment Payload × TokenState)) with
  | some (body, token) => sendCommandLocked wire { bridge with token } body taken
  | none => (false, bridge)

end LifecycleBridge

/-- The runner's end of the channel does with a command what the bridge does. -/
theorem Channel.next_dispatch (channel : Channel Environment Payload) (command : AppCommand Payload) (taken : Bool) :
    (channel.next wire (.dispatch command taken)).bridge =
      if !channel.started ∨ channel.closed then channel.bridge else (channel.bridge.dispatch wire command taken).2 := by
  unfold Channel.next LifecycleBridge.dispatch
  simp only
  by_cases shut : (!channel.started) = true ∨ channel.closed = true
  · rw [if_pos shut, if_pos shut]
  rw [if_neg shut, if_neg shut]
  generalize (commandBody channel.bridge.token channel.bridge.shutdownDeadlineMs command :
    Option (LifecycleCommandBody Environment Payload × TokenState)) = made
  cases made with
  | none => rfl
  | some made =>
    obtain ⟨body, token⟩ := made
    unfold Channel.send LifecycleBridge.sendCommandLocked
    by_cases valid : body.valid wire = true
    · simp only [valid, if_true]
      split
      · cases taken <;> rfl
      · rfl
    · simp [valid]

/-! ## Fences -/

/-- The token that the command is to move on to, if it is one for the foreground and its
    fence is accepted. -/
def AppCommand.fence (state : TokenState) : AppCommand Payload → Option TokenState
  | .enterForeground _ _ foregroundEpoch leaseId => state.foregroundWithFence foregroundEpoch leaseId
  | .resume => state.foreground
  | .preparePark | .enterBackground | .shutdown => none

/-- What a command for the foreground tells the application. -/
def AppCommand.message : AppCommand Payload → LifecycleCommand Environment Payload
  | .enterForeground resumePayload openPath _ _ => .enterForeground resumePayload openPath
  | .resume => .enterForeground none none
  | .preparePark | .enterBackground => .enterBackground
  | .shutdown => .shutdown .user 0

theorem AppCommand.fence_granted {state next : TokenState} {command : AppCommand Payload}
    (moved : command.fence state = some next) : TokenState.Granted state.token next.token := by
  cases command with
  | enterForeground => exact TokenState.foregroundWithFence_granted moved
  | resume => exact TokenState.foreground_granted moved
  | preparePark => cases moved
  | enterBackground => cases moved
  | shutdown => cases moved

/-- A command moves the token to its fence, or leaves it. -/
theorem commandBody_fence (Environment : Type) (state : TokenState) (deadline : Nat) (command : AppCommand Payload) :
    match command.fence state with
    | some next => commandBody state deadline command =
        some ((⟨next.token, command.message⟩ : LifecycleCommandBody Environment Payload), next)
    | none => ∀ body next, commandBody state deadline command =
        some ((body : LifecycleCommandBody Environment Payload), next) → next = state := by
  cases command with
  | enterForeground resumePayload openPath foregroundEpoch leaseId =>
    simp only [AppCommand.fence, commandBody, AppCommand.message]
    cases state.foregroundWithFence foregroundEpoch leaseId <;> simp
  | resume =>
    simp only [AppCommand.fence, commandBody, AppCommand.message]
    cases state.foreground <;> simp
  | preparePark => simp [AppCommand.fence, commandBody]
  | enterBackground => simp [AppCommand.fence, commandBody]
  | shutdown => simp [AppCommand.fence, commandBody]

/-- A message as the transport writes it. -/
def Wire.payload (transport : ChildTransport) (envelope : Envelope (LifecycleCommandBody Environment Payload)) : List UInt8 :=
  match transport with
  | .lengthPrefixed => wire.encode envelope
  | .newline => wire.encodeFlat envelope

/-- The message of a command for the foreground passes its checks and fits a frame. -/
structure Sendable (bridge : LifecycleBridge) (body : LifecycleCommandBody Environment Payload) : Prop where
  generation : body.token.generation ≠ 0
  named : (bridge.envelope body).validHeader = true
  written : wire.payload bridge.transport (bridge.envelope body) ≠ []
  fits : (wire.payload bridge.transport (bridge.envelope body)).length ≤ maxFrame

variable {wire} {bridge : LifecycleBridge} {command : AppCommand Payload} {taken : Bool}

theorem encodeCommand_isSome {transport : ChildTransport} {envelope : Envelope (LifecycleCommandBody Environment Payload)} :
    (encodeCommand wire transport envelope).isSome = true ↔
      wire.payload transport envelope ≠ [] ∧ (wire.payload transport envelope).length ≤ maxFrame := by
  unfold encodeCommand
  simp only
  have shape : ∀ (bytes packet : List UInt8), (if bytes.isEmpty = true ∨ bytes.length > maxFrame then none else some packet).isSome = true ↔
      bytes ≠ [] ∧ bytes.length ≤ maxFrame := by
    intro bytes packet
    by_cases refused : bytes.isEmpty = true ∨ bytes.length > maxFrame
    · rw [if_pos refused]
      simp only [Option.isSome_none, Bool.false_eq_true, false_iff]
      rintro ⟨written, fits⟩
      rcases refused with empty | long
      · exact written (List.isEmpty_iff.mp empty)
      · exact Nat.lt_irrefl _ (Nat.lt_of_lt_of_le long fits)
    · rw [if_neg refused]
      simp only [Option.isSome_some, true_iff]
      refine ⟨fun empty => refused (.inl (List.isEmpty_iff.mpr empty)), ?_⟩
      by_contra long
      exact refused (.inr (Nat.lt_of_not_le long))
  cases transport <;> exact shape _ _

/-- A message for the foreground under a lease is sent exactly when it is sendable and taken. -/
theorem sendCommandLocked_sends {body : LifecycleCommandBody Environment Payload} {payload : Option Payload}
    {path : Option String} (leased : ∃ lease, body.token.leaseId = some lease ∧ lease ≠ 0)
    (foreground : body.command = .enterForeground payload path) :
    (bridge.sendCommandLocked wire body taken).1 = true ↔ Sendable wire bridge body ∧ taken = true := by
  obtain ⟨lease, some', nonzero⟩ := leased
  have valid : body.valid wire = true ↔ body.token.generation ≠ 0 := by
    unfold LifecycleCommandBody.valid
    simp only [foreground, Bool.and_true]
    unfold AppToken.validate
    by_cases zero : body.token.generation = 0
    · simp [zero, Except.isOk, Except.toBool]
    · simp [zero, some', nonzero, Except.isOk, Except.toBool]
  unfold LifecycleBridge.sendCommandLocked
  by_cases generation : body.token.generation = 0
  · have invalid : ¬body.valid wire = true := fun valid' => valid.mp valid' generation
    rw [if_neg invalid]
    constructor
    · intro sent
      cases sent
    · rintro ⟨sendable, -⟩
      exact absurd generation sendable.generation
  · rw [if_pos (valid.mpr generation)]
    simp only [LifecycleBridge.packet, valid.mpr generation, Bool.true_and, Bool.and_eq_true]
    by_cases named : (bridge.envelope body).validHeader = true
    · rw [if_pos named, encodeCommand_isSome]
      constructor
      · rintro ⟨⟨written, fits⟩, taken⟩
        exact ⟨⟨generation, named, written, fits⟩, taken⟩
      · rintro ⟨sendable, taken⟩
        exact ⟨⟨sendable.written, sendable.fits⟩, taken⟩
    · rw [if_neg named]
      constructor
      · rintro ⟨none, -⟩
        cases none
      · rintro ⟨sendable, -⟩
        exact absurd sendable.named named

theorem sendCommandLocked_token (body : LifecycleCommandBody Environment Payload) :
    (bridge.sendCommandLocked wire body taken).2.token = bridge.token ∧
      (bridge.sendCommandLocked wire body taken).2.shutdownDeadlineMs = bridge.shutdownDeadlineMs := by
  unfold LifecycleBridge.sendCommandLocked
  split <;> exact ⟨rfl, rfl⟩

/-- What a dispatch makes of the token. -/
theorem dispatch_token : (bridge.dispatch wire command taken).2.token = (command.fence bridge.token).getD bridge.token := by
  have made := commandBody_fence Environment bridge.token bridge.shutdownDeadlineMs command
  unfold LifecycleBridge.dispatch
  cases fence : command.fence bridge.token with
  | some next =>
    rw [fence] at made
    rw [made]
    exact (sendCommandLocked_token _).1
  | none =>
    rw [fence] at made
    split
    next body token same =>
      have kept := made body token same
      subst kept
      exact (sendCommandLocked_token body).1
    next => rfl

theorem dispatch_deadline : (bridge.dispatch wire command taken).2.shutdownDeadlineMs = bridge.shutdownDeadlineMs := by
  unfold LifecycleBridge.dispatch
  split
  · exact (sendCommandLocked_token _).2
  · rfl

/-- A command whose fence is accepted is sent exactly when its message is sendable and taken. -/
theorem dispatch_sends {next : TokenState} (moved : command.fence bridge.token = some next) :
    (bridge.dispatch wire command taken).1 = true ↔
      Sendable wire { bridge with token := next } ⟨next.token, command.message⟩ ∧ taken = true := by
  have made := commandBody_fence Environment bridge.token bridge.shutdownDeadlineMs command
  rw [moved] at made
  have granted := AppCommand.fence_granted moved
  obtain ⟨payload, path, foreground⟩ : ∃ payload path,
      (command.message : LifecycleCommand Environment Payload) = .enterForeground payload path := by
    cases command with
    | enterForeground resumePayload openPath => exact ⟨resumePayload, openPath, rfl⟩
    | resume => exact ⟨none, none, rfl⟩
    | preparePark => cases moved
    | enterBackground => cases moved
    | shutdown => cases moved
  unfold LifecycleBridge.dispatch
  rw [made]
  exact sendCommandLocked_sends granted.leased foreground

/-! ## Failures -/

variable (wire)

/-- A dispatch that fails leaves the token, so that the events of the foreground go on to be
    accepted and the command can be made again. -/
structure KeepsFence (bridge : LifecycleBridge) (command : AppCommand Payload) (taken : Bool) : Prop where
  token : (bridge.dispatch wire command taken).1 = false →
    (bridge.dispatch wire command taken).2.token.token = bridge.token.token
  events : (bridge.dispatch wire command taken).1 = false → ∀ token,
    eventMatchesToken token (bridge.dispatch wire command taken).2.token.token = eventMatchesToken token bridge.token.token
  again : (bridge.dispatch wire command taken).1 = false →
    (commandBody (bridge.dispatch wire command taken).2.token (bridge.dispatch wire command taken).2.shutdownDeadlineMs
      command : Option (LifecycleCommandBody Environment Payload × TokenState)) =
    commandBody bridge.token bridge.shutdownDeadlineMs command

/-- The command is not for the foreground, or its fence is refused, or its message can be
    sent and is taken. -/
def DeliversFence (bridge : LifecycleBridge) (command : AppCommand Payload) (taken : Bool) : Prop :=
  ∀ next, command.fence bridge.token = some next →
    Sendable wire { bridge with token := next } ⟨next.token, command.message⟩ ∧ taken = true

variable {wire}

theorem keepsFence_iff : KeepsFence wire bridge command taken ↔ DeliversFence wire bridge command taken := by
  constructor
  · intro keeps next moved
    by_contra unsent
    have failed : (bridge.dispatch wire command taken).1 = false := by
      by_contra sent
      exact unsent ((dispatch_sends moved).mp (by simpa using sent))
    have same := keeps.token failed
    rw [dispatch_token, moved, Option.getD_some] at same
    have newer := (AppCommand.fence_granted moved).newer
    rw [same] at newer
    exact Nat.lt_irrefl _ newer
  · intro delivers
    have kept : (bridge.dispatch wire command taken).1 = false →
        (bridge.dispatch wire command taken).2.token = bridge.token := by
      intro failed
      rw [dispatch_token]
      cases fence : command.fence bridge.token with
      | none => rfl
      | some next =>
        have sent := (dispatch_sends fence).mpr (delivers next fence)
        rw [failed] at sent
        cases sent
    constructor
    · intro failed
      rw [kept failed]
    · intro failed token
      rw [kept failed]
    · intro failed
      rw [kept failed, dispatch_deadline]

/-! ## Runs -/

variable (wire)

def LifecycleBridge.next (bridge : LifecycleBridge) (step : AppCommand Payload × Bool) : LifecycleBridge :=
  (bridge.dispatch wire step.1 step.2).2

/-- The epoch that the step enters the foreground under. -/
def LifecycleBridge.entered (bridge : LifecycleBridge) (step : AppCommand Payload × Bool) : Option Nat :=
  match step.1 with
  | .enterForeground .. =>
    if (bridge.dispatch wire step.1 step.2).1 then some (bridge.next wire step).token.token.foregroundEpoch else none
  | _ => none

variable {wire}

theorem next_rises (bridge : LifecycleBridge) (step : AppCommand Payload × Bool) :
    bridge.token.token.foregroundEpoch ≤ (bridge.next wire step).token.token.foregroundEpoch := by
  unfold LifecycleBridge.next
  rw [dispatch_token]
  cases fence : step.1.fence bridge.token with
  | none => exact Nat.le_refl _
  | some next => exact Nat.le_of_lt (AppCommand.fence_granted fence).newer

theorem entered_newer {step : AppCommand Payload × Bool} {epoch : Nat} (entered : bridge.entered wire step = some epoch) :
    bridge.token.token.foregroundEpoch < epoch ∧ epoch = (bridge.next wire step).token.token.foregroundEpoch := by
  obtain ⟨command, taken⟩ := step
  cases command with
  | enterForeground payload path foregroundEpoch leaseId =>
    simp only [LifecycleBridge.entered] at entered
    split at entered
    next sent =>
      cases entered
      refine ⟨?_, rfl⟩
      have fenced : ((.enterForeground payload path foregroundEpoch leaseId : AppCommand Payload).fence bridge.token).isSome := by
        cases fence : (.enterForeground payload path foregroundEpoch leaseId : AppCommand Payload).fence bridge.token with
        | some next => rfl
        | none =>
          simp only [AppCommand.fence] at fence
          simp [LifecycleBridge.dispatch, commandBody, fence] at sent
      obtain ⟨next, moved⟩ := Option.isSome_iff_exists.mp fenced
      have newer := (AppCommand.fence_granted moved).newer
      unfold LifecycleBridge.next
      rw [dispatch_token, moved]
      exact newer
    next => cases entered
  | resume => cases entered
  | preparePark => cases entered
  | enterBackground => cases entered
  | shutdown => cases entered

/-- A dispatch that fails keeps the fence exactly where the command has none to move on to,
    or its message is delivered; and the commands that enter the foreground do so under
    ever newer epochs. -/
theorem dispatch_keeps_fence (wire : Wire Environment Payload) :
    (∀ bridge (command : AppCommand Payload) taken,
      KeepsFence wire bridge command taken ↔ DeliversFence wire bridge command taken) ∧
    ∀ bridge (steps : List (AppCommand Payload × Bool)),
      (Runs.answers (LifecycleBridge.next wire) (LifecycleBridge.entered wire) bridge steps).Pairwise (· < ·) := by
  refine ⟨fun bridge command taken => keepsFence_iff, fun bridge steps => ?_⟩
  exact Runs.answers_increase (fun bridge : LifecycleBridge => bridge.token.token.foregroundEpoch) id (fun _ => True)
    (fun _ _ _ => trivial) (fun bridge step _ => next_rises bridge step)
    (fun bridge step epoch _ entered => (entered_newer entered).1)
    (fun bridge step epoch _ entered => (entered_newer entered).2.le) steps bridge trivial

/-- The command that recalls an application which has left a payload. -/
def recalled (payload : List Char) : AppCommand (List Char) := .enterForeground (some payload) none (some 2) (some 2)

/-- The message is longer than the payload by more than a hundred bytes. -/
theorem recall_size (payload : List Char) : payload.length + 137 <
    ((Channel.plainWire []).payload .lengthPrefixed
      (({ Channel.notesBridge with token := ⟨⟨Channel.notes, 1, 2, some 2⟩, 3⟩ } : LifecycleBridge).envelope
        ⟨⟨Channel.notes, 1, 2, some 2⟩, (recalled payload).message⟩)).length := by
  simp only [Wire.payload, Channel.plainWire, Channel.plainWire.encode, Channel.ascii, Channel.object, Channel.members,
    Channel.quoted, Channel.commandFields, AppCommand.message, recalled, Channel.orNull, Option.getD_some,
    LifecycleBridge.envelope, List.length_map, List.length_append, List.length_cons, List.length_nil]
  have protocol : "protocol".toList.length = 8 := by decide
  have request : "request_id".toList.length = 10 := by decide
  have body : "body".toList.length = 4 := by decide
  have token : "token".toList.length = 5 := by decide
  have fields : (Channel.members (Channel.tokenFields ⟨Channel.notes, 1, 2, some 2⟩)).length = 65 := by decide
  have command : "command".toList.length = 7 := by decide
  have enters : "enter_foreground".toList.length = 16 := by decide
  have resume : "resume_payload".toList.length = 14 := by decide
  simp only [protocol, request, body, token, fields, command, enters, resume]
  omega

theorem quoted_length (n : Nat) : (Channel.quoted (List.replicate n 'x')).length = n + 2 := by
  simp [Channel.quoted]

/-- A payload that fits the frame of the daemon's command makes a message that is too long
    for the application's. The fence is spent all the same: the token has moved on, so that
    the events of the foreground are refused and the command cannot be made again. -/
theorem long_recall_spends_fence :
    let payload := Channel.quoted (List.replicate 65398 'x')
    payload.length = 65400 ∧ ¬KeepsFence (Channel.plainWire []) Channel.notesBridge (recalled payload) true := by
  intro payload
  have size : payload.length = 65400 := quoted_length 65398
  refine ⟨size, fun keeps => ?_⟩
  have delivers := keepsFence_iff.mp keeps ⟨⟨Channel.notes, 1, 2, some 2⟩, 3⟩ rfl
  have fits := delivers.1.fits
  have long := recall_size payload
  rw [size] at long
  exact absurd (Nat.lt_of_lt_of_le long fits) (by decide)

end Remagic.Lifecycle
