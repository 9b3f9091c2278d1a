import Remagic.Supervisor
import Remagic.Runs

/-!
# The lifecycle protocol

The runner and its application exchange commands and events, each under the token of
the process and of its time in the foreground. The runner keeps the current token, and
moves it on with each command that brings the application to the foreground.
-/

namespace Remagic.Lifecycle
open Supervisor

def protocolV2 : Nat := 2

def maxFrame : Nat := 64 * 1024

structure Envelope (β : Type) where
  protocol : Nat := protocolV2
  requestId : String
  body : β
  deriving DecidableEq

def requestIdByte (c : Char) : Bool := c.isAlphanum || c == '-' || c == '_' || c == '.' || c == ':'

def validRequestId (requestId : String) : Bool :=
  !requestId.isEmpty && decide (requestId.utf8ByteSize ≤ 128) && requestId.toList.all requestIdByte

/-- `validate_header`. -/
def Envelope.validHeader {β : Type} (envelope : Envelope β) : Bool :=
  envelope.protocol == protocolV2 && validRequestId envelope.requestId

/-! ## The runner's token -/

/-- `TokenState`. -/
structure TokenState where
  token : AppToken
  nextLeaseId : Nat

/-- `wrapping_add(1).max(1)`. -/
def leaseAfter (lease : Nat) : Nat := max ((lease + 1) % (u64Max + 1)) 1

variable {state next : TokenState}

namespace TokenState

def new (appId : AppId) (generation foregroundEpoch leaseId : Nat) : TokenState :=
  ⟨⟨appId, generation, foregroundEpoch, some leaseId⟩, leaseAfter leaseId⟩

/-- The token for the next time in the foreground. -/
def foreground (state : TokenState) : Option TokenState :=
  if state.token.foregroundEpoch < u64Max then
    some
      { token :=
          { state.token with
            foregroundEpoch := state.token.foregroundEpoch + 1
            leaseId := some (max state.nextLeaseId 1) }
        nextLeaseId := leaseAfter state.nextLeaseId }
  else none

def foregroundWithFence (state : TokenState) : Option Nat → Option Nat → Option TokenState
  | some foregroundEpoch, some leaseId =>
    if foregroundEpoch = 0 ∨ leaseId = 0 then none
    else if foregroundEpoch ≤ state.token.foregroundEpoch then none
    else some
      { token := { state.token with foregroundEpoch, leaseId := some leaseId }
        nextLeaseId := leaseAfter leaseId }
  | none, none => state.foreground
  | _, _ => none

/-- A later token of the same process. -/
structure Advanced (before after : AppToken) : Prop where
  appId : after.appId = before.appId
  generation : after.generation = before.generation
  foregroundEpoch : before.foregroundEpoch ≤ after.foregroundEpoch

theorem Advanced.refl (token : AppToken) : Advanced token token := ⟨rfl, rfl, Nat.le_refl _⟩

theorem Advanced.trans {first second third : AppToken} (one : Advanced first second) (two : Advanced second third) :
    Advanced first third :=
  ⟨two.appId.trans one.appId, two.generation.trans one.generation, Nat.le_trans one.foregroundEpoch two.foregroundEpoch⟩

/-- What a foreground command makes of the token: a newer epoch and a lease. -/
structure Granted (before after : AppToken) : Prop where
  appId : after.appId = before.appId
  generation : after.generation = before.generation
  newer : before.foregroundEpoch < after.foregroundEpoch
  leased : ∃ lease, after.leaseId = some lease ∧ lease ≠ 0

theorem Granted.advanced {before after : AppToken} (granted : Granted before after) : Advanced before after :=
  ⟨granted.appId, granted.generation, Nat.le_of_lt granted.newer⟩

theorem foreground_granted (moved : state.foreground = some next) : Granted state.token next.token := by
  unfold foreground at moved
  by_cases room : state.token.foregroundEpoch < u64Max
  · rw [if_pos room] at moved
    cases moved
    refine ⟨rfl, rfl, Nat.lt_succ_self _, _, rfl, ?_⟩
    omega
  · rw [if_neg room] at moved
    cases moved

theorem foregroundWithFence_granted {foregroundEpoch leaseId : Option Nat}
    (moved : state.foregroundWithFence foregroundEpoch leaseId = some next) : Granted state.token next.token := by
  cases foregroundEpoch with
  | none =>
    cases leaseId with
    | none => exact foreground_granted moved
    | some lease => cases moved
  | some epoch =>
    cases leaseId with
    | none => cases moved
    | some lease =>
      unfold foregroundWithFence at moved
      simp only at moved
      by_cases zero : epoch = 0 ∨ lease = 0
      · simp [zero] at moved
      · by_cases stale : epoch ≤ state.token.foregroundEpoch
        · simp [zero, stale] at moved
        · rw [if_neg zero, if_neg stale] at moved
          cases moved
          refine ⟨rfl, rfl, by simpa using stale, lease, rfl, ?_⟩
          omega

end TokenState

/-- `event_matches_token`. -/
def eventMatchesToken (token current : AppToken) : Bool :=
  token.appId == current.appId && token.generation == current.generation &&
    token.foregroundEpoch == current.foregroundEpoch && token.leaseId == current.leaseId

theorem eventMatchesToken_iff {token current : AppToken} : eventMatchesToken token current = true ↔ token = current := by
  constructor
  · intro same
    simp only [eventMatchesToken, Bool.and_eq_true, beq_iff_eq] at same
    obtain ⟨⟨⟨app, generation⟩, epoch⟩, lease⟩ := same
    cases token
    cases current
    simp_all
  · rintro rfl
    simp [eventMatchesToken]

/-! ## Commands -/

inductive ShutdownReason where
  | user
  | upgrade
  | returnStock
  | recovery
  deriving DecidableEq

/-- `LifecycleCommand`, whose launch environments and resume payloads the channel does
    not look into. -/
inductive LifecycleCommand (Environment Payload : Type) where
  | start (launchEnvironment : Environment) (resumePayload : Option Payload) (openPath : Option String)
  | enterForeground (resumePayload : Option Payload) (openPath : Option String)
  | enterBackground
  | openPath (path : String)
  | shutdown (reason : ShutdownReason) (deadlineMs : Nat)
  deriving DecidableEq

structure LifecycleCommandBody (Environment Payload : Type) where
  token : AppToken
  command : LifecycleCommand Environment Payload
  deriving DecidableEq

/-- `AppCommand`: what the daemon asks of the runner. -/
inductive AppCommand (Payload : Type) where
  | enterForeground (resumePayload : Option Payload) (openPath : Option String) (foregroundEpoch leaseId : Option Nat)
  | preparePark
  | enterBackground
  | shutdown
  | resume

variable {Environment Payload : Type}

/-- `command_body`: the message, and the token state that it leaves behind. -/
def commandBody (state : TokenState) (shutdownDeadlineMs : Nat) :
    AppCommand Payload → Option (LifecycleCommandBody Environment Payload × TokenState)
  | .enterForeground resumePayload openPath foregroundEpoch leaseId =>
    (state.foregroundWithFence foregroundEpoch leaseId).map fun next =>
      (⟨next.token, .enterForeground resumePayload openPath⟩, next)
  | .resume => state.foreground.map fun next => (⟨next.token, .enterForeground none none⟩, next)
  | .preparePark | .enterBackground => some (⟨state.token, .enterBackground⟩, state)
  | .shutdown => some (⟨state.token, .shutdown .user shutdownDeadlineMs⟩, state)

/-- The message goes under the token that it leaves behind, and starts nothing. -/
theorem commandBody_token {deadline : Nat} {command : AppCommand Payload}
    {body : LifecycleCommandBody Environment Payload} (made : commandBody state deadline command = some (body, next)) :
    body.token = next.token ∧ TokenState.Advanced state.token next.token := by
  cases command with
  | enterForeground resumePayload openPath foregroundEpoch leaseId =>
    obtain ⟨after, moved, same⟩ := Option.map_eq_some_iff.mp made
    cases same
    exact ⟨rfl, (TokenState.foregroundWithFence_granted moved).advanced⟩
  | resume =>
    obtain ⟨after, moved, same⟩ := Option.map_eq_some_iff.mp made
    cases same
    exact ⟨rfl, (TokenState.foreground_granted moved).advanced⟩
  | preparePark =>
    cases made
    exact ⟨rfl, .refl _⟩
  | enterBackground =>
    cases made
    exact ⟨rfl, .refl _⟩
  | shutdown =>
    cases made
    exact ⟨rfl, .refl _⟩

end Remagic.Lifecycle
