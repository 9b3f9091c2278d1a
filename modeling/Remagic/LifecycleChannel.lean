import Mathlib.Data.List.Forall2
import Remagic.LifecycleTokens

/-!
# The lifecycle channel

The runner writes each command as one packet, and the application's client polls: one
poll takes packet after packet until none is left, and returns their commands together.
-/

namespace Remagic.Lifecycle
open Supervisor

/-- What the channel leaves to others: what an environment says of itself, and how a
    message is written as JSON and read back. -/
structure Wire (Environment Payload : Type) where
  appId : Environment → AppId
  validate : Environment → Bool
  encode : Envelope (LifecycleCommandBody Environment Payload) → List UInt8
  /-- `encode_flat_command`, before the newline. -/
  encodeFlat : Envelope (LifecycleCommandBody Environment Payload) → List UInt8
  decode : List UInt8 → Option (Envelope (LifecycleCommandBody Environment Payload))

variable {Environment Payload : Type} (wire : Wire Environment Payload)

/-- A message is read back as it was written, and a flat one is an object. -/
structure Wire.Faithful (envelope : Envelope (LifecycleCommandBody Environment Payload)) :
    Prop where
  lossless : wire.decode (wire.encode envelope) = some envelope
  opens : (wire.encodeFlat envelope).head? = some 0x7b

/-- `LifecycleCommandBody::validate`. -/
def LifecycleCommandBody.valid (body : LifecycleCommandBody Environment Payload) : Bool :=
  body.token.validate.isOk &&
    match body.command with
    | .start launchEnvironment _ _ =>
      decide (wire.appId launchEnvironment = body.token.appId) && wire.validate launchEnvironment
    | .shutdown _ deadlineMs => deadlineMs ≠ 0
    | _ => true

/-! ## Packets -/

inductive ChildTransport where
  | lengthPrefixed
  | newline
  deriving DecidableEq

def ChildTransport.forApp (app : AppId) : ChildTransport :=
  if app.value = "koreader" then .newline else .lengthPrefixed

/-- `u32::to_be_bytes`. -/
def be32 (n : Nat) : List UInt8 :=
  [UInt8.ofNat (n / 0x1000000), UInt8.ofNat (n / 0x10000), UInt8.ofNat (n / 0x100), UInt8.ofNat n]

/-- `u32::from_be_bytes` of the first four bytes. -/
def ofBe32 : List UInt8 → Nat
  | a :: b :: c :: d :: _ => a.toNat * 0x1000000 + b.toNat * 0x10000 + c.toNat * 0x100 + d.toNat
  | _ => 0

theorem ofBe32_be32 {n : Nat} {rest : List UInt8} (small : n < 0x100000000) : ofBe32 (be32 n ++ rest) = n := by
  simp only [be32, List.cons_append, ofBe32, UInt8.toNat_ofNat']
  omega

/-- `encode_command`: `none` where the frame has a length that is refused. -/
def encodeCommand (transport : ChildTransport) (envelope : Envelope (LifecycleCommandBody Environment Payload)) :
    Option (List UInt8) :=
  let payload := match transport with
    | .lengthPrefixed => wire.encode envelope
    | .newline => wire.encodeFlat envelope
  if payload.isEmpty ∨ payload.length > maxFrame then none
  else some (match transport with
    | .lengthPrefixed => be32 payload.length ++ payload
    | .newline => payload ++ [10])

/-- `decode_command_packet`. -/
def decodeCommandPacket (packet : List UInt8) : Option (Envelope (LifecycleCommandBody Environment Payload)) :=
  if packet.length < 4 then none
  else if ofBe32 packet = 0 ∨ ofBe32 packet > maxFrame ∨ packet.length ≠ ofBe32 packet + 4 then none
  else wire.decode (packet.drop 4)

variable {wire}

theorem decodeCommandPacket_framed {envelope : Envelope (LifecycleCommandBody Environment Payload)} {packet : List UInt8}
    (encoded : encodeCommand wire .lengthPrefixed envelope = some packet) :
    decodeCommandPacket wire packet = wire.decode (wire.encode envelope) := by
  unfold encodeCommand at encoded
  simp only at encoded
  by_cases refused : (wire.encode envelope).isEmpty ∨ (wire.encode envelope).length > maxFrame
  · rw [if_pos refused] at encoded
    cases encoded
  · rw [if_neg refused] at encoded
    cases encoded
    have some' : (wire.encode envelope).length ≠ 0 := by simpa using fun empty => refused (.inl (by simpa using empty))
    have fits : (wire.encode envelope).length ≤ maxFrame := by
      by_contra large
      exact refused (.inr (by omega))
    have small : (wire.encode envelope).length < 0x100000000 := Nat.lt_of_le_of_lt fits (by decide)
    have size : (be32 (wire.encode envelope).length ++ wire.encode envelope).length = (wire.encode envelope).length + 4 := by
      simp [be32]
    unfold decodeCommandPacket
    rw [ofBe32_be32 small, size]
    simp only [show ¬(wire.encode envelope).length + 4 < 4 by omega, if_false]
    rw [if_neg (by omega)]
    rfl

/-- A line of JSON is no frame: its first byte makes the length of one far too large. -/
theorem decodeCommandPacket_line {envelope : Envelope (LifecycleCommandBody Environment Payload)} {packet : List UInt8}
    (opens : (wire.encodeFlat envelope).head? = some 0x7b) (encoded : encodeCommand wire .newline envelope = some packet) :
    decodeCommandPacket wire packet = none := by
  unfold encodeCommand at encoded
  simp only at encoded
  by_cases refused : (wire.encodeFlat envelope).isEmpty ∨ (wire.encodeFlat envelope).length > maxFrame
  · rw [if_pos refused] at encoded
    cases encoded
  · rw [if_neg refused] at encoded
    cases encoded
    obtain ⟨rest, same⟩ : ∃ rest, wire.encodeFlat envelope = 0x7b :: rest := List.head?_eq_some_iff.mp opens
    rw [same]
    unfold decodeCommandPacket
    by_cases short : (0x7b :: rest ++ [10]).length < 4
    · rw [if_pos short]
    · rw [if_neg short, if_pos]
      right
      left
      match rest, short with
      | a :: b :: c :: _, _ =>
        simp only [List.cons_append, ofBe32, maxFrame]
        have first : (0x7b : UInt8).toNat = 123 := rfl
        omega
      | [a, b], _ =>
        simp only [List.cons_append, List.nil_append, ofBe32, maxFrame]
        have first : (0x7b : UInt8).toNat = 123 := rfl
        omega
      | [a], short => simp at short
      | [], short => simp at short

/-! ## The runner's end -/

/-- `LifecycleBridge`, with the lease and the epoch of its launch. -/
structure LifecycleBridge where
  transport : ChildTransport
  token : TokenState
  nextRequest : Nat := 1
  shutdownDeadlineMs : Nat

/-- What `prepare_lifecycle` makes a bridge of: a generation, a foreground epoch and a
    display lease, the last two of which it demands to be there and not zero. -/
def LifecycleBridge.prepare (appId : AppId) (generation foregroundEpoch leaseId : Option Nat) (shutdownDeadlineMs : Nat) :
    Option LifecycleBridge :=
  match generation, foregroundEpoch, leaseId with
  | some generation, some foregroundEpoch, some leaseId =>
    if foregroundEpoch = 0 ∨ leaseId = 0 then none
    else some
      { transport := .forApp appId
        token := .new appId generation foregroundEpoch leaseId
        shutdownDeadlineMs }
  | _, _, _ => none

variable (wire)

def LifecycleBridge.envelope (bridge : LifecycleBridge) (body : LifecycleCommandBody Environment Payload) :
    Envelope (LifecycleCommandBody Environment Payload) where
  requestId := "runner-" ++ body.token.appId.value ++ "-" ++ toString body.token.generation ++ "-" ++ toString bridge.nextRequest
  body

/-- `send_command_locked`, up to the socket: the packet of a message that passes its checks. -/
def LifecycleBridge.packet (bridge : LifecycleBridge) (body : LifecycleCommandBody Environment Payload) :
    Option (List UInt8) :=
  if body.valid wire && (bridge.envelope body).validHeader then encodeCommand wire bridge.transport (bridge.envelope body)
  else none

/-! ## The application's end -/

structure LifecycleClient where
  appId : AppId
  activeToken : Option AppToken := none

inductive LifecycleError where
  | disconnected
  | invalidFrame
  | invalidHeader
  | invalidBody
  | invalidToken
  | startRequired
  | staleToken
  deriving DecidableEq

/-- `accept_token`. -/
def LifecycleClient.acceptToken (client : LifecycleClient) (body : LifecycleCommandBody Environment Payload) :
    Except LifecycleError LifecycleClient :=
  let token := body.token
  if token.appId ≠ client.appId ∨ token.generation = 0 ∨ token.leaseId = some 0 then .error .invalidToken
  else match client.activeToken, body.command with
    | none, .start .. =>
      if token.foregroundEpoch > 0 ∧ token.leaseId.isSome then .ok { client with activeToken := some token }
      else .error .startRequired
    | none, _ => .error .startRequired
    | some active, _ =>
      if token.generation ≠ active.generation ∨ token.foregroundEpoch < active.foregroundEpoch then .error .staleToken
      else .ok { client with activeToken := some token }

/-- What `poll` does with one packet. -/
def LifecycleClient.receive (client : LifecycleClient) (packet : List UInt8) :
    Except LifecycleError (LifecycleCommand Environment Payload × LifecycleClient) := do
  match decodeCommandPacket wire packet with
  | none => throw .invalidFrame
  | some envelope =>
    if !envelope.validHeader then throw .invalidHeader
    if !envelope.body.valid wire then throw .invalidBody
    let client ← client.acceptToken envelope.body
    return (envelope.body.command, client)

/-! ## Both ends -/

/-- The two ends and the socket between them. -/
structure Channel (Environment Payload : Type) where
  bridge : LifecycleBridge
  client : LifecycleClient
  queue : List (List UInt8) := []
  closed : Bool := false
  started : Bool := false
  /-- What the poll under way has taken so far. -/
  commands : List (LifecycleCommand Environment Payload) := []
  /-- What the polls that succeeded have returned. -/
  delivered : List (LifecycleCommand Environment Payload) := []
  /-- Ghost: what the runner has sent. -/
  sent : List (Envelope (LifecycleCommandBody Environment Payload)) := []

inductive Move (Environment Payload : Type) where
  | sendStart (launchEnvironment : Environment) (resumePayload : Option Payload) (openPath : Option String)
  /-- A command of the daemon. The socket may refuse its packet. -/
  | dispatch (command : AppCommand Payload) (taken : Bool)
  | requestShutdown (reason : ShutdownReason) (taken : Bool)
  | close
  /-- The application goes on polling: one `recv`. -/
  | recv

namespace Channel
variable {wire}

def opened (appId : AppId) (bridge : LifecycleBridge) : Channel Environment Payload where
  bridge
  client := { appId }

variable (wire)

/-- `send_command_locked`. The request is counted once the message has passed its checks. -/
def send (channel : Channel Environment Payload) (body : LifecycleCommandBody Environment Payload) (taken : Bool) :
    Channel Environment Payload :=
  if body.valid wire then
    let after := { channel with bridge := { channel.bridge with nextRequest := channel.bridge.nextRequest + 1 } }
    match channel.bridge.packet wire body with
    | some packet =>
      if taken then { after with queue := channel.queue ++ [packet], sent := channel.sent ++ [channel.bridge.envelope body] }
      else after
    | none => after
  else channel

def next (channel : Channel Environment Payload) : Move Environment Payload → Channel Environment Payload
  | .sendStart launchEnvironment resumePayload openPath =>
    if channel.started ∨ channel.closed then channel
    else
      let after := channel.send wire ⟨channel.bridge.token.token, .start launchEnvironment resumePayload openPath⟩ true
      { after with started := !after.sent.isEmpty }
  | .dispatch command taken =>
    if !channel.started ∨ channel.closed then channel
    else match commandBody channel.bridge.token channel.bridge.shutdownDeadlineMs command with
      | some (body, token) => send wire { channel with bridge := { channel.bridge with token } } body taken
      | none => channel
  | .requestShutdown reason taken =>
    if !channel.started ∨ channel.closed then channel
    else channel.send wire ⟨channel.bridge.token.token, .shutdown reason channel.bridge.shutdownDeadlineMs⟩ taken
  | .close => { channel with closed := true }
  | .recv =>
    match channel.queue with
    | packet :: queue =>
      match channel.client.receive wire packet with
      | .ok (command, client) => { channel with queue, client, commands := channel.commands ++ [command] }
      -- The poll fails, and what it has taken goes with it.
      | .error _ => { channel with queue, commands := [] }
    | [] =>
      if channel.closed then { channel with commands := [] }
      else { channel with delivered := channel.delivered ++ channel.commands, commands := [] }

/-! ## What the runner has sent -/

/-- The packets of `taken` have been received, and those of `rest` are queued. -/
structure Sound (appId : AppId) (taken rest : List (Envelope (LifecycleCommandBody Environment Payload)))
    (channel : Channel Environment Payload) : Prop where
  sent : channel.sent = taken ++ rest
  queued : List.Forall₂ (fun envelope packet => encodeCommand wire channel.bridge.transport envelope = some packet) rest
    channel.queue
  client : channel.client.appId = appId
  active : channel.bridge.transport = .lengthPrefixed →
    channel.client.activeToken = taken.getLast?.map fun envelope => envelope.body.token
  checked : ∀ envelope ∈ channel.sent, envelope.validHeader = true ∧ envelope.body.valid wire = true
  app : channel.bridge.token.token.appId = appId
  advanced : ∀ envelope ∈ channel.sent, TokenState.Advanced envelope.body.token channel.bridge.token.token
  ordered : channel.sent.Pairwise fun first second => TokenState.Advanced first.body.token second.body.token
  first : ∀ envelope, channel.sent.head? = some envelope → 0 < envelope.body.token.foregroundEpoch ∧
    envelope.body.token.leaseId.isSome ∧ ∃ environment payload path, envelope.body.command = .start environment payload path
  started : channel.started = true → channel.sent ≠ []
  fresh : channel.started = false → channel.sent = [] ∧ 0 < channel.bridge.token.token.foregroundEpoch ∧
    channel.bridge.token.token.leaseId.isSome

variable {wire} {appId : AppId} {taken rest : List (Envelope (LifecycleCommandBody Environment Payload))}
  {channel : Channel Environment Payload}

theorem opened_sound {bridge : LifecycleBridge} {generation foregroundEpoch leaseId : Option Nat} {deadline : Nat}
    (prepared : LifecycleBridge.prepare appId generation foregroundEpoch leaseId deadline = some bridge) :
    Sound wire appId [] [] (opened appId bridge) := by
  unfold LifecycleBridge.prepare at prepared
  split at prepared
  next generation epoch lease =>
    by_cases zero : epoch = 0 ∨ lease = 0
    · rw [if_pos zero] at prepared
      cases prepared
    · rw [if_neg zero] at prepared
      cases prepared
      have positive : 0 < epoch := by omega
      constructor <;> simp [opened, TokenState.new, positive]
  next => cases prepared

@[simp] theorem send_transport (body : LifecycleCommandBody Environment Payload) (accepted : Bool) :
    (channel.send wire body accepted).bridge.transport = channel.bridge.transport := by
  unfold send
  split
  · split
    · cases accepted <;> rfl
    · rfl
  · rfl

@[simp] theorem send_started (body : LifecycleCommandBody Environment Payload) (accepted : Bool) :
    (channel.send wire body accepted).started = channel.started := by
  unfold send
  split
  · split
    · cases accepted <;> rfl
    · rfl
  · rfl

variable (channel) in
theorem send_sent (body : LifecycleCommandBody Environment Payload) (accepted : Bool) :
    channel.sent <+: (channel.send wire body accepted).sent := by
  unfold send
  split
  · split
    · cases accepted
      · exact List.prefix_rfl
      · exact List.prefix_append ..
    · exact List.prefix_rfl
  · exact List.prefix_rfl

/-- What polls have taken and not lost. -/
def held (channel : Channel Environment Payload) : List (LifecycleCommand Environment Payload) :=
  channel.delivered ++ channel.commands

@[simp] theorem send_held (body : LifecycleCommandBody Environment Payload) (accepted : Bool) :
    (channel.send wire body accepted).held = channel.held := by
  unfold send
  split
  · split
    · cases accepted <;> rfl
    · rfl
  · rfl

/-- A message under the current token is queued, or nothing is. -/
theorem send_sound (sound : Sound wire appId taken rest channel) (body : LifecycleCommandBody Environment Payload)
    (current : body.token = channel.bridge.token.token) (accepted : Bool)
    (first : channel.sent = [] → 0 < body.token.foregroundEpoch ∧ body.token.leaseId.isSome ∧
      ∃ environment payload path, body.command = .start environment payload path) :
    ∃ later, Sound wire appId taken (rest ++ later)
      { channel.send wire body accepted with
        started := channel.started || !(channel.send wire body accepted).sent.isEmpty } := by
  have unsent : ∀ nextRequest, Sound wire appId taken (rest ++ [])
      { channel with
        bridge := { channel.bridge with nextRequest }
        started := channel.started || !channel.sent.isEmpty } := by
    intro nextRequest
    rw [List.append_nil]
    refine { sound with started := ?_, fresh := ?_ }
    · intro begun
      cases already : channel.started with
      | true => exact sound.started already
      | false => simpa [already] using begun
    · intro idle
      exact sound.fresh (by simpa using (Bool.or_eq_false_iff.mp idle).1)
  unfold send
  by_cases valid : body.valid wire = true
  · simp only [valid, if_true]
    cases packed : channel.bridge.packet wire body with
    | none => exact ⟨[], unsent _⟩
    | some packet =>
      cases accepted with
      | false => exact ⟨[], unsent _⟩
      | true =>
        refine ⟨[channel.bridge.envelope body], ?_⟩
        unfold LifecycleBridge.packet at packed
        by_cases header : (channel.bridge.envelope body).validHeader = true
        · simp only [valid, header, Bool.and_self, if_true] at packed
          constructor
          · simp [sound.sent]
          · exact List.rel_append sound.queued (List.Forall₂.cons packed .nil)
          · exact sound.client
          · exact sound.active
          · intro envelope member
            rcases List.mem_append.mp member with old | new
            · exact sound.checked envelope old
            · rw [List.mem_singleton.mp new]
              exact ⟨header, valid⟩
          · exact sound.app
          · intro envelope member
            rcases List.mem_append.mp member with old | new
            · exact sound.advanced envelope old
            · rw [List.mem_singleton.mp new]
              simp only [LifecycleBridge.envelope, current]
              exact .refl _
          · refine List.pairwise_append.mpr ⟨sound.ordered, List.pairwise_singleton .., ?_⟩
            intro old member new last
            rw [List.mem_singleton.mp last]
            simp only [LifecycleBridge.envelope, current]
            exact sound.advanced old member
          · intro envelope head
            cases old : channel.sent with
            | nil =>
              obtain rfl : channel.bridge.envelope body = envelope := by simpa [old] using head
              exact first old
            | cons oldest later =>
              refine sound.first envelope ?_
              simpa [old] using head
          · simp
          · intro idle
            simp at idle
        · simp [header] at packed
  · simp only [valid]
    refine ⟨[], ?_⟩
    simpa using unsent channel.bridge.nextRequest

/-- A framed packet is received as the message that was sent. -/
theorem receive_sound {envelope : Envelope (LifecycleCommandBody Environment Payload)} {packet : List UInt8}
    (sound : Sound wire appId taken (envelope :: rest) channel) (framed : channel.bridge.transport = .lengthPrefixed)
    (encoded : encodeCommand wire .lengthPrefixed envelope = some packet)
    (lossless : wire.decode (wire.encode envelope) = some envelope) :
    channel.client.receive wire packet =
      .ok (envelope.body.command, { channel.client with activeToken := some envelope.body.token }) := by
  have member : envelope ∈ channel.sent := by simp [sound.sent]
  obtain ⟨header, valid⟩ := sound.checked envelope member
  have advanced := sound.advanced envelope member
  have same : envelope.body.token.appId = channel.client.appId := by
    rw [← advanced.appId, sound.app, sound.client]
  have named : envelope.body.token.validate.isOk = true := by
    unfold LifecycleCommandBody.valid at valid
    exact (Bool.and_eq_true_iff.mp valid).1
  have token : envelope.body.token.generation ≠ 0 ∧ envelope.body.token.leaseId ≠ some 0 := by
    unfold AppToken.validate at named
    constructor
    · intro zero
      simp [zero, Except.isOk, Except.toBool] at named
    · intro zero
      by_cases generation : envelope.body.token.generation = 0
      · simp [generation, Except.isOk, Except.toBool] at named
      · simp [generation, zero, Except.isOk, Except.toBool] at named
  have accepted : channel.client.acceptToken envelope.body =
      .ok { channel.client with activeToken := some envelope.body.token } := by
    have admitted : ¬(envelope.body.token.appId ≠ channel.client.appId ∨ envelope.body.token.generation = 0 ∨
        envelope.body.token.leaseId = some 0) := by
      simp [same, token]
    unfold LifecycleClient.acceptToken
    simp only [if_neg admitted]
    rw [sound.active framed]
    cases last : taken.getLast? with
    | none =>
      have none' : taken = [] := List.getLast?_eq_none_iff.mp last
      obtain ⟨positive, leased, environment, payload, path, start⟩ := sound.first envelope (by simp [sound.sent, none'])
      simp [start, positive, leased]
    | some previous =>
      have before : previous ∈ taken := List.mem_of_getLast? last
      have step : TokenState.Advanced previous.body.token envelope.body.token := by
        have pairs := sound.ordered
        rw [sound.sent] at pairs
        exact (List.pairwise_append.mp pairs).2.2 previous before envelope (by simp)
      have current : ¬(envelope.body.token.generation ≠ previous.body.token.generation ∨
          envelope.body.token.foregroundEpoch < previous.body.token.foregroundEpoch) := by
        have epochs := step.foregroundEpoch
        rw [step.generation]
        omega
      simp only [Option.map_some]
      rw [if_neg current]
  unfold LifecycleClient.receive
  rw [decodeCommandPacket_framed encoded, lossless]
  simp only [header, valid, Bool.not_true, accepted]
  rfl

/-- The queue's first packet is taken. -/
theorem taken_sound {envelope : Envelope (LifecycleCommandBody Environment Payload)} {packet : List UInt8}
    {queue : List (List UInt8)} {after : Channel Environment Payload}
    (sound : Sound wire appId taken (envelope :: rest) channel) (queued : channel.queue = packet :: queue)
    (same : after = { channel with queue, client := after.client, commands := after.commands })
    (client : after.client.appId = appId)
    (active : channel.bridge.transport = .lengthPrefixed → after.client.activeToken = some envelope.body.token) :
    Sound wire appId (taken ++ [envelope]) rest after := by
  have tail := sound.queued
  rw [queued] at tail
  rw [same]
  exact
    { sent := by simp [sound.sent]
      queued := (List.forall₂_cons.mp tail).2
      client
      active := by simpa using active
      checked := sound.checked
      app := sound.app
      advanced := sound.advanced
      ordered := sound.ordered
      first := sound.first
      started := sound.started
      fresh := sound.fresh }

/-- The bridge moves on to a later token. -/
theorem token_sound (sound : Sound wire appId taken rest channel) {token : TokenState}
    (later : TokenState.Advanced channel.bridge.token.token token.token) (begun : channel.started = true) :
    Sound wire appId taken rest { channel with bridge := { channel.bridge with token } } :=
  { sound with
    app := later.appId.trans sound.app
    advanced := fun envelope member => (sound.advanced envelope member).trans later
    fresh := fun idle => by simp [begun] at idle }

/-! ## What is delivered -/

/-- The moves that lose nothing: the poll that finds the channel closed has taken nothing
    before, and no packet is a line. -/
def Kept (channel : Channel Environment Payload) : Move Environment Payload → Prop
  | .recv => match channel.queue with
    | [] => channel.closed = true → channel.commands = []
    | _ :: _ => channel.bridge.transport = .lengthPrefixed
  | _ => True

instance Kept.decide (channel : Channel Environment Payload) : ∀ move, Decidable (Kept channel move)
  | .recv => match queued : channel.queue with
    | [] => decidable_of_iff (channel.closed = true → channel.commands = []) (by simp [Kept, queued])
    | _ :: _ => decidable_of_iff (channel.bridge.transport = .lengthPrefixed) (by simp [Kept, queued])
  | .sendStart .. | .dispatch .. | .requestShutdown .. | .close => isTrue trivial

/-- From `channel` to `after` the packets of `more` were received. -/
structure Took (channel after : Channel Environment Payload) (kept : Prop)
    (more : List (Envelope (LifecycleCommandBody Environment Payload))) : Prop where
  transport : after.bridge.transport = channel.bridge.transport
  sent : channel.sent <+: after.sent
  held : kept → after.held = channel.held ++ more.map fun envelope => envelope.body.command
  framed : kept → more ≠ [] → channel.bridge.transport = .lengthPrefixed
  short : after.held.length ≤ channel.held.length + more.length
  lost : ¬kept → after.held.length < channel.held.length + more.length

theorem Took.trans {first second third : Channel Environment Payload} {one two : Prop}
    {some more : List (Envelope (LifecycleCommandBody Environment Payload))} (before : Took first second one some)
    (after : Took second third two more) : Took first third (one ∧ two) (some ++ more) where
  transport := after.transport.trans before.transport
  sent := before.sent.trans after.sent
  held := by
    rintro ⟨keptBefore, keptAfter⟩
    simp [after.held keptAfter, before.held keptBefore]
  framed := by
    rintro ⟨keptBefore, keptAfter⟩ taken
    by_cases none : some = []
    · rw [← before.transport]
      exact after.framed keptAfter (by simpa [none] using taken)
    · exact before.framed keptBefore none
  short := by
    have one := before.short
    have two := after.short
    rw [List.length_append]
    omega
  lost := by
    intro lost
    have shortBefore := before.short
    have shortAfter := after.short
    rw [List.length_append]
    by_cases keptBefore : one
    · have loss := after.lost fun keptAfter => lost ⟨keptBefore, keptAfter⟩
      omega
    · have loss := before.lost keptBefore
      omega

/-- A move that receives nothing. -/
theorem Took.none {after : Channel Environment Payload} {kept : Prop} (holds : kept)
    (transport : after.bridge.transport = channel.bridge.transport) (sent : channel.sent <+: after.sent)
    (held : after.held = channel.held) : Took channel after kept [] where
  transport
  sent
  held := fun _ => by simp [held]
  framed := fun _ absurd => (absurd rfl).elim
  short := by simp [held]
  lost := fun lost => (lost holds).elim

theorem receive_line {envelope : Envelope (LifecycleCommandBody Environment Payload)} {packet : List UInt8}
    (opens : (wire.encodeFlat envelope).head? = some 0x7b) (encoded : encodeCommand wire .newline envelope = some packet) :
    channel.client.receive wire packet = .error .invalidFrame := by
  unfold LifecycleClient.receive
  rw [decodeCommandPacket_line opens encoded]
  rfl

/-- One `recv`. -/
theorem recv_sound (sound : Sound wire appId taken rest channel) (faithful : ∀ envelope ∈ channel.sent, wire.Faithful envelope) :
    ∃ more left, Sound wire appId (taken ++ more) left (channel.next wire .recv) ∧
      Took channel (channel.next wire .recv) (Kept channel .recv) more := by
  cases queued : channel.queue with
  | nil =>
    refine ⟨[], rest, ?_⟩
    rw [List.append_nil]
    by_cases closed : channel.closed = true
    · have step : channel.next wire .recv = { channel with commands := [] } := by
        simp only [next, queued, closed, if_true]
      rw [step]
      refine ⟨{ sound with }, ?_⟩
      constructor
      · rfl
      · exact List.prefix_rfl
      · intro kept
        simp [held, show channel.commands = [] by simpa [Kept, queued, closed] using kept]
      · intro _ absurd
        exact (absurd rfl).elim
      · simp [held]
      · intro lost
        have dropped : channel.commands ≠ [] := by simpa [Kept, queued, closed] using lost
        have some := List.length_pos_of_ne_nil dropped
        simp only [held, List.length_append, List.length_nil]
        omega
    · have step : channel.next wire .recv =
          { channel with delivered := channel.delivered ++ channel.commands, commands := [] } := by
        simp [next, queued, closed]
      rw [step]
      exact ⟨{ sound with }, .none (by simp [Kept, queued, closed]) rfl List.prefix_rfl (by simp [held])⟩
  | cons packet queue =>
    have tail := sound.queued
    rw [queued] at tail
    obtain ⟨envelope, left, encoded, -, rfl⟩ := List.forall₂_cons_right_iff.mp tail
    have reads := faithful envelope (by simp [sound.sent])
    refine ⟨[envelope], left, ?_⟩
    cases transport : channel.bridge.transport with
    | lengthPrefixed =>
      rw [transport] at encoded
      have received := receive_sound sound transport encoded reads.lossless
      have step : channel.next wire .recv =
          { channel with
            queue
            client := { channel.client with activeToken := some envelope.body.token }
            commands := channel.commands ++ [envelope.body.command] } := by
        simp only [next, queued, received]
      rw [step]
      refine ⟨taken_sound sound queued rfl sound.client fun _ => rfl, ?_⟩
      exact
        { transport := rfl
          sent := List.prefix_rfl
          held := fun _ => by simp [held]
          framed := fun _ _ => transport
          short := by simp [held, Nat.add_assoc]
          lost := fun lost => (lost (by simpa [Kept, queued] using transport)).elim }
    | newline =>
      rw [transport] at encoded
      have received : channel.client.receive wire packet = .error .invalidFrame := receive_line reads.opens encoded
      have step : channel.next wire .recv = { channel with queue, commands := [] } := by
        simp only [next, queued, received]
      rw [step]
      refine ⟨taken_sound sound queued rfl sound.client fun framed => by simp [transport] at framed, ?_⟩
      constructor
      · rfl
      · exact List.prefix_rfl
      · intro kept
        simp [Kept, queued, transport] at kept
      · intro kept
        simp [Kept, queued, transport] at kept
      · simp only [held, List.length_append, List.length_nil, List.length_singleton]
        omega
      · intro _
        simp only [held, List.length_append, List.length_nil, List.length_singleton]
        omega

/-- A message of a runner that has started. -/
theorem send_started_sound (sound : Sound wire appId taken rest channel) (begun : channel.started = true)
    (body : LifecycleCommandBody Environment Payload) (current : body.token = channel.bridge.token.token) (accepted : Bool) :
    ∃ more left, Sound wire appId (taken ++ more) left (channel.send wire body accepted) ∧
      Took channel (channel.send wire body accepted) True more := by
  obtain ⟨later, sends⟩ :=
    send_sound sound body current accepted fun unsent => (sound.started begun unsent).elim
  refine ⟨[], rest ++ later, ?_, .none trivial (send_transport ..) (send_sent ..) (send_held ..)⟩
  rw [List.append_nil]
  have same : (channel.send wire body accepted).started = true := by rw [send_started, begun]
  convert sends using 1
  rw [begun, Bool.true_or, ← same]

/-- One move, and what it receives. -/
theorem next_sound (sound : Sound wire appId taken rest channel) (move : Move Environment Payload)
    (faithful : ∀ envelope ∈ channel.sent, wire.Faithful envelope) :
    ∃ more left, Sound wire appId (taken ++ more) left (channel.next wire move) ∧
      Took channel (channel.next wire move) (Kept channel move) more := by
  have stays : ∃ more left, Sound wire appId (taken ++ more) left channel ∧ Took channel channel True more :=
    ⟨[], rest, by simpa using sound, .none trivial rfl List.prefix_rfl rfl⟩
  cases move with
  | sendStart launchEnvironment resumePayload openPath =>
    by_cases idle : channel.started = true ∨ channel.closed = true
    · simp only [next, if_pos idle]
      exact stays
    · have unstarted : channel.started = false := by simpa using fun begun => idle (.inl begun)
      obtain ⟨unsent, positive, leased⟩ := sound.fresh unstarted
      obtain ⟨later, sends⟩ :=
        send_sound sound ⟨channel.bridge.token.token, .start launchEnvironment resumePayload openPath⟩ rfl true
          fun _ => ⟨positive, leased, launchEnvironment, resumePayload, openPath, rfl⟩
      refine ⟨[], rest ++ later, ?_, ?_⟩
      · rw [unstarted, Bool.false_or] at sends
        rw [List.append_nil]
        simp only [next, if_neg idle]
        exact sends
      · simp only [next, if_neg idle]
        exact .none trivial (send_transport ..) (send_sent ..) (send_held ..)
  | dispatch command accepted =>
    by_cases idle : (!channel.started) = true ∨ channel.closed = true
    · simp only [next, if_pos idle]
      exact stays
    · have begun : channel.started = true := by
        by_contra unstarted
        exact idle (.inl (by simpa using unstarted))
      simp only [next, if_neg idle]
      cases made : (commandBody channel.bridge.token channel.bridge.shutdownDeadlineMs command :
          Option (LifecycleCommandBody Environment Payload × TokenState)) with
      | none => exact stays
      | some made' =>
        obtain ⟨body, token⟩ := made'
        obtain ⟨current, later⟩ := commandBody_token made
        obtain ⟨more, left, sends, took⟩ := send_started_sound (token_sound sound later begun) begun body current accepted
        exact ⟨more, left, sends, { took with }⟩
  | requestShutdown reason accepted =>
    by_cases idle : (!channel.started) = true ∨ channel.closed = true
    · simp only [next, if_pos idle]
      exact stays
    · have begun : channel.started = true := by
        by_contra unstarted
        exact idle (.inl (by simpa using unstarted))
      simp only [next, if_neg idle]
      exact send_started_sound sound begun _ rfl accepted
  | close => exact ⟨[], rest, by simpa [next] using { sound with }, .none trivial rfl List.prefix_rfl rfl⟩
  | recv => exact recv_sound sound faithful

theorem next_sent (channel : Channel Environment Payload) (move : Move Environment Payload) :
    channel.sent <+: (channel.next wire move).sent := by
  cases move with
  | sendStart launchEnvironment resumePayload openPath =>
    by_cases idle : channel.started = true ∨ channel.closed = true
    · simp [next, idle]
    · simp only [next, if_neg idle]
      exact send_sent ..
  | dispatch command accepted =>
    by_cases idle : (!channel.started) = true ∨ channel.closed = true
    · simp only [next, if_pos idle]
      exact List.prefix_rfl
    · simp only [next, if_neg idle]
      cases (commandBody channel.bridge.token channel.bridge.shutdownDeadlineMs command :
          Option (LifecycleCommandBody Environment Payload × TokenState)) with
      | none => exact List.prefix_rfl
      | some made => exact send_sent { channel with bridge := { channel.bridge with token := made.2 } } made.1 accepted
  | requestShutdown reason accepted =>
    by_cases idle : (!channel.started) = true ∨ channel.closed = true
    · simp only [next, if_pos idle]
      exact List.prefix_rfl
    · simp only [next, if_neg idle]
      exact send_sent ..
  | close => exact List.prefix_rfl
  | recv =>
    cases queued : channel.queue with
    | nil =>
      by_cases closed : channel.closed = true <;> simp [next, queued, closed]
    | cons packet queue =>
      simp only [next, queued]
      cases channel.client.receive wire packet <;> exact List.prefix_rfl

theorem run_sent (moves : List (Move Environment Payload)) (channel : Channel Environment Payload) :
    channel.sent <+: (moves.foldl (next wire) channel).sent :=
  @Runs.run_invariant _ _ (next wire) (fun after => channel.sent <+: after.sent)
    (fun after move grown => grown.trans (next_sent after move)) moves channel List.prefix_rfl

/-- A run of the channel, and what it receives. -/
theorem run_sound (moves : List (Move Environment Payload)) {taken rest : List (Envelope (LifecycleCommandBody Environment Payload))}
    {channel : Channel Environment Payload} (sound : Sound wire appId taken rest channel)
    (faithful : ∀ envelope ∈ (moves.foldl (next wire) channel).sent, wire.Faithful envelope) :
    ∃ more left, Sound wire appId (taken ++ more) left (moves.foldl (next wire) channel) ∧
      Took channel (moves.foldl (next wire) channel) (Runs.Along (next wire) Kept channel moves) more := by
  induction moves generalizing taken rest channel with
  | nil => exact ⟨[], rest, by simpa using sound, .none trivial rfl List.prefix_rfl rfl⟩
  | cons move moves ih =>
    have grown : channel.sent <+: (moves.foldl (next wire) (channel.next wire move)).sent := run_sent (move :: moves) channel
    have early : ∀ envelope ∈ channel.sent, wire.Faithful envelope := fun envelope member =>
      faithful envelope (grown.subset member)
    obtain ⟨one, left, soundNext, tookOne⟩ := next_sound sound move early
    obtain ⟨later, leftLast, soundLast, tookLater⟩ := ih soundNext faithful
    exact ⟨one ++ later, leftLast, by simpa using soundLast, tookOne.trans tookLater⟩

/-- The commands that polls have returned, with those that the poll under way has taken
    and those still queued, are the commands that were sent; and after a poll the client
    is under the token of the last one. -/
structure Delivers (channel : Channel Environment Payload) : Prop where
  inOrder : ∃ queued, queued.length = channel.queue.length ∧
    (channel.sent.map fun envelope => envelope.body.command) = channel.delivered ++ channel.commands ++ queued
  token : channel.commands = [] → ∀ envelope, (channel.sent.take channel.delivered.length).getLast? = some envelope →
    ∃ token, channel.client.activeToken = some token ∧ eventMatchesToken token envelope.body.token = true

/-- Where messages are read as they are written, the commands of a run are delivered
    exactly when no poll that finds the channel closed had taken some before, and none was
    sent as a line. -/
theorem delivers_iff {bridge : LifecycleBridge} {generation foregroundEpoch leaseId : Option Nat} {deadline : Nat}
    (prepared : LifecycleBridge.prepare appId generation foregroundEpoch leaseId deadline = some bridge)
    (moves : List (Move Environment Payload))
    (faithful : ∀ envelope ∈ (moves.foldl (next wire) (opened appId bridge)).sent, wire.Faithful envelope) :
    Delivers (moves.foldl (next wire) (opened appId bridge)) ↔
      Runs.Along (next wire) Kept (opened appId bridge) moves := by
  obtain ⟨more, left, sound, took⟩ := run_sound moves (opened_sound prepared) faithful
  rw [List.nil_append] at sound
  have queued := sound.queued.length_eq
  constructor
  · intro delivers
    by_contra lost
    obtain ⟨rest, length, order⟩ := delivers.inOrder
    have fewer := took.lost lost
    have sizes := congrArg List.length order
    rw [List.length_map, sound.sent] at sizes
    simp only [held, opened, List.length_append, List.length_nil] at fewer sizes
    omega
  · intro kept
    have order : (moves.foldl (next wire) (opened appId bridge)).held = more.map fun envelope => envelope.body.command := by
      simpa [held, opened] using took.held kept
    constructor
    · refine ⟨left.map fun envelope => envelope.body.command, by simpa using queued, ?_⟩
      rw [sound.sent, List.map_append, ← order]
      rfl
    · intro polled envelope last
      have whole : (moves.foldl (next wire) (opened appId bridge)).delivered.length = more.length := by
        simpa [held, polled] using congrArg List.length order
      rw [whole, sound.sent, List.take_left] at last
      have some' : more ≠ [] := by
        rintro rfl
        simp at last
      have framed := took.framed kept some'
      rw [← took.transport] at framed
      refine ⟨envelope.body.token, by rw [sound.active framed, last]; rfl, ?_⟩
      exact eventMatchesToken_iff.mpr rfl

/-! ### A launch -/

def quoted (text : List Char) : List Char := '"' :: text ++ ['"']

/-- The members of a JSON object. -/
def members : List (List Char × List Char) → List Char
  | [] => []
  | [(name, value)] => quoted name ++ ':' :: value
  | (name, value) :: fields => quoted name ++ ':' :: value ++ ',' :: members fields

def object (fields : List (List Char × List Char)) : List Char := '\x7b' :: members fields ++ ['\x7d']

def orNull (text : Option (List Char)) : List Char := text.getD "null".toList

def number (n : Nat) : List Char := Nat.toDigits 10 n

def reasonText : ShutdownReason → List Char
  | .user => "user".toList
  | .upgrade => "upgrade".toList
  | .returnStock => "return_stock".toList
  | .recovery => "recovery".toList

/-- An environment is its application and its text, and a payload is its text. -/
def commandFields : LifecycleCommand (AppId × List Char) (List Char) → List (List Char × List Char)
  | .start environment payload path =>
    [("command".toList, quoted "start".toList), ("launch_environment".toList, environment.2),
      ("resume_payload".toList, orNull payload), ("open_path".toList, orNull (path.map fun path => quoted path.toList))]
  | .enterForeground payload path =>
    [("command".toList, quoted "enter_foreground".toList), ("resume_payload".toList, orNull payload),
      ("open_path".toList, orNull (path.map fun path => quoted path.toList))]
  | .enterBackground => [("command".toList, quoted "enter_background".toList)]
  | .openPath path => [("command".toList, quoted "open_path".toList), ("path".toList, quoted path.toList)]
  | .shutdown reason deadline =>
    [("command".toList, quoted "shutdown".toList), ("reason".toList, quoted (reasonText reason)),
      ("deadline_ms".toList, number deadline)]

def tokenFields (token : AppToken) : List (List Char × List Char) :=
  [("app_id".toList, quoted token.appId.value.toList), ("generation".toList, number token.generation),
    ("foreground_epoch".toList, number token.foregroundEpoch), ("lease_id".toList, orNull (token.leaseId.map number))]

def ascii (text : List Char) : List UInt8 := text.map fun c => UInt8.ofNat c.toNat

/-- The writer of messages whose texts need no escapes, and a reader of `messages`. -/
def plainWire (messages : List (Envelope (LifecycleCommandBody (AppId × List Char) (List Char)))) :
    Wire (AppId × List Char) (List Char) where
  appId := Prod.fst
  validate := fun environment => !environment.2.isEmpty
  encode := encode
  encodeFlat := fun envelope => ascii (object
    [("body".toList, object (commandFields envelope.body.command ++ tokenFields envelope.body.token)),
      ("protocol".toList, number envelope.protocol), ("request_id".toList, quoted envelope.requestId.toList)])
  decode := fun bytes => messages.find? fun envelope => encode envelope == bytes
where
  encode (envelope : Envelope (LifecycleCommandBody (AppId × List Char) (List Char))) : List UInt8 := ascii (object
    [("protocol".toList, number envelope.protocol), ("request_id".toList, quoted envelope.requestId.toList),
      ("body".toList, object (("token".toList, object (tokenFields envelope.body.token)) :: commandFields envelope.body.command))])

def notes : AppId := ⟨"notes", by decide⟩

def launchOfNotes : LifecycleCommand (AppId × List Char) (List Char) := .start (notes, object [("app_id".toList, quoted "notes".toList)]) none none

/-- A launch, and the close of the application while it polls. -/
def notesMessages : List (Envelope (LifecycleCommandBody (AppId × List Char) (List Char))) :=
  [{ requestId := "runner-notes-1-1", body := ⟨⟨notes, 1, 1, some 1⟩, launchOfNotes⟩ },
    { requestId := "runner-notes-1-2", body := ⟨⟨notes, 1, 1, some 1⟩, .shutdown .user 5000⟩ }]

def notesMoves (polled : List (Move (AppId × List Char) (List Char))) : List (Move (AppId × List Char) (List Char)) :=
  [.sendStart (notes, object [("app_id".toList, quoted "notes".toList)]) none none, .dispatch .shutdown true] ++ polled

def notesBridge : LifecycleBridge where
  transport := .lengthPrefixed
  token := .new notes 1 1 1
  shutdownDeadlineMs := 5000

theorem notes_faithful (polled : List (Move (AppId × List Char) (List Char)))
    (sent : ((notesMoves polled).foldl (next (plainWire notesMessages)) (opened notes notesBridge)).sent = notesMessages) :
    ∀ envelope ∈ ((notesMoves polled).foldl (next (plainWire notesMessages)) (opened notes notesBridge)).sent,
      (plainWire notesMessages).Faithful envelope := by
  rw [sent]
  intro envelope member
  constructor
  · simp only [notesMessages, List.mem_cons, List.not_mem_nil, or_false] at member
    rcases member with rfl | rfl <;> decide +kernel
  · rfl

theorem delivers_notes : Delivers ((notesMoves [.recv, .recv, .recv, .close, .recv]).foldl (next (plainWire notesMessages))
    (opened notes notesBridge)) :=
  (delivers_iff (show LifecycleBridge.prepare notes (some 1) (some 1) (some 1) 5000 = some notesBridge from rfl)
    (notesMoves [.recv, .recv, .recv, .close, .recv]) (notes_faithful _ (by decide +kernel))).mpr (by decide +kernel)

/-- The runner closes before the application polls: the poll takes the launch and the
    shutdown, finds the close, and returns neither. -/
theorem close_drops_commands :
    let channel := (notesMoves [.close, .recv, .recv, .recv]).foldl (next (plainWire notesMessages)) (opened notes notesBridge)
    (∀ envelope ∈ channel.sent, (plainWire notesMessages).Faithful envelope) ∧ channel.sent.length = 2 ∧
      channel.queue = [] ∧ channel.delivered = [] ∧ channel.commands = [] ∧ ¬Delivers channel := by
  have sent : ((notesMoves [.close, .recv, .recv, .recv]).foldl (next (plainWire notesMessages)) (opened notes notesBridge)).sent =
      notesMessages := by decide +kernel
  refine ⟨notes_faithful _ sent, by rw [sent]; rfl, by decide +kernel, by decide +kernel, by decide +kernel, fun delivers => ?_⟩
  obtain ⟨queued, none, order⟩ := delivers.inOrder
  rw [sent] at order
  have size := congrArg List.length order
  simp only [List.length_append, none] at size
  exact absurd size (by decide +kernel)

end Channel

end Remagic.Lifecycle
