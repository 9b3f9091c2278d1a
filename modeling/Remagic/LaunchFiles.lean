import Remagic.LifecycleWait

/-!
# Status files of earlier launches

The daemon's counters start again at one in each of its lives, and the status file of
an application stays where its runner left it. Only the next runner removes it, which
starts while the daemon polls already. So a file of an earlier life can be taken for
one of the launch that is waited for, as long as the runner has not come to clear it.
-/

namespace Remagic.Lifecycle
open Supervisor
variable {Payload : Type}

/-- The runner of a unit: before it has cleared the directory, and with its session. -/
inductive Runner (Payload : Type) where
  | starting (token : AppToken)
  | running (session : Session Payload)

/-- A `wait_event` for readiness, or a `wait_background_ready`. -/
structure Awaited where
  token : AppToken
  parks : Bool
  phase : WaitPhase := .inspecting
  deriving DecidableEq

namespace Awaited

def expectedEvent (awaited : Awaited) : String := if awaited.parks then "state_saved + background_ready" else "ready"

def verdict (awaited : Awaited) (status : LifecycleStatus) : Option (Except (String × String) LifecycleStatus) :=
  status.verdict awaited.token awaited.expectedEvent awaited.parks

end Awaited

/-- An application's launches in the lives of the daemon, one after another. A runner
    bears the life that started it. -/
structure Launches (Payload : Type) where
  life : Nat := 0
  /-- The counters are the source's `u64`s, without their wrap. -/
  nextGeneration : Nat := 1
  nextEpoch : Nat := 1
  runner : Option (Nat × Runner Payload) := none
  /-- `lifecycle-status.json` in the application's runtime directory. -/
  file : Option (List UInt8) := none
  /-- The token of the runtime that the daemon has registered. -/
  fence : Option AppToken := none
  wait : Option Awaited := none
  /-- Ghost: the runner has cleared the directory since the launch. -/
  cleared : Bool := false
  /-- Ghost: the life and the token that the file was written for. -/
  author : Option (Nat × AppToken) := none
  /-- Ghost: all that was ever published. -/
  published : List (Publication Payload) := []

inductive LaunchMove (Payload : Type) where
  /-- `remagicd` is killed and starts again. -/
  | restart
  /-- Other applications are launched. -/
  | allocate (generations epochs : Nat)
  | launch
  /-- The active application is recalled. -/
  | recallActive (resumePayload : Option Payload) (openPath : Option String) (acknowledged : Bool)
  | park (acknowledged : Bool)
  | clearStale
  | event (envelope : Envelope (LifecycleEventBody Payload)) (written : Bool)
  | disconnect
  /-- The unit is stopped, or its processes exit. -/
  | runnerExits
  | inspect
  | read
  /-- The wait goes on, after its look at the deadline. -/
  | check
  /-- The deadline has passed, or the launch is interrupted. -/
  | giveUp

namespace Launches
variable (payloadBytes : Payload → List UInt8) (parse : List UInt8 → Option (StatusMap Payload)) (appId : AppId)
  (deadline : Nat)

/-- The token of the next launch: the lease bears the number of the epoch. -/
def newToken (s : Launches Payload) : AppToken :=
  ⟨appId, max s.nextGeneration 1, max s.nextEpoch 1, some (max s.nextEpoch 1)⟩

/-- The token of a recall of the registered runtime. -/
def recallToken (s : Launches Payload) (fence : AppToken) : AppToken :=
  { fence with foregroundEpoch := max s.nextEpoch 1, leaseId := some (max s.nextEpoch 1) }

/-- `prepare_launch` of an application whose unit is inactive, and the start of the unit. -/
def launch (s : Launches Payload) : Launches Payload :=
  match s.runner with
  | some _ => s
  | none =>
    { s with
      nextGeneration := s.nextGeneration + 1
      nextEpoch := s.nextEpoch + 1
      fence := some (s.newToken appId)
      wait := some { token := s.newToken appId, parks := false }
      runner := some (s.life, .starting (s.newToken appId))
      cleared := false }

/-- `clear_stale`, and the start of the session. -/
def clearStale (s : Launches Payload) : Launches Payload :=
  match s.runner with
  | some (life, .starting token) =>
    match LifecycleBridge.prepare token.appId (some token.generation) (some token.foregroundEpoch) token.leaseId deadline with
    | some bridge =>
      { s with runner := some (life, .running (Session.opened bridge)), file := none, author := none, cleared := true }
    | none => { s with runner := none }
  | _ => s

/-- The session has gone on. -/
def serve (s : Launches Payload) (life : Nat) (session later : Session Payload) : Launches Payload :=
  let more := later.published.drop session.published.length
  { s with
    runner := some (life, .running later)
    file := later.file
    author := (more.getLast?.map fun publication => (life, publication.token)).or s.author
    published := s.published ++ more }

/-- A command that the runner of the registered runtime gets, if its control socket is there. -/
def command (s : Launches Payload) (command : AppCommand Payload) (awaited : Awaited) (acknowledged : Bool) :
    Launches Payload :=
  match s.runner with
  | some (life, .running session) =>
    { s.serve life session (session.next payloadBytes (.dispatch command)) with
      wait := if acknowledged then some awaited else none }
  | _ => { s with wait := none }

def recallActive (s : Launches Payload) (resumePayload : Option Payload) (openPath : Option String) (acknowledged : Bool) :
    Launches Payload :=
  match s.fence with
  | none => s
  | some fence =>
    let token := s.recallToken fence
    { s with nextEpoch := s.nextEpoch + 1, fence := some token }.command payloadBytes
      (.enterForeground resumePayload openPath (some token.foregroundEpoch) token.leaseId)
      { token, parks := false } acknowledged

def park (s : Launches Payload) (acknowledged : Bool) : Launches Payload :=
  match s.fence with
  | none => s
  | some fence => s.command payloadBytes .enterBackground { token := fence, parks := true } acknowledged

def next (s : Launches Payload) : LaunchMove Payload → Launches Payload
  | .restart => { s with life := s.life + 1, nextGeneration := 1, nextEpoch := 1, fence := none, wait := none }
  | .allocate generations epochs =>
    { s with nextGeneration := s.nextGeneration + generations, nextEpoch := s.nextEpoch + epochs }
  | .launch => s.launch appId
  | .recallActive resumePayload openPath acknowledged => s.recallActive payloadBytes resumePayload openPath acknowledged
  | .park acknowledged => s.park payloadBytes acknowledged
  | .clearStale => s.clearStale deadline
  | .event envelope written =>
    match s.runner with
    | some (life, .running session) => s.serve life session (session.next payloadBytes (.event envelope written))
    | _ => s
  | .disconnect =>
    match s.runner with
    | some (life, .running session) => s.serve life session (session.next payloadBytes .disconnect)
    | _ => s
  | .runnerExits => { s with runner := none }
  | .inspect =>
    match s.wait with
    | some awaited =>
      if awaited.phase ≠ .inspecting then s
      else { s with wait := some { awaited with phase := if inspectable s.file then .reading else .checking } }
    | none => s
  | .read =>
    match s.wait with
    | some awaited =>
      if awaited.phase ≠ .reading then s
      else match (parseStatus parse s.file).bind awaited.verdict with
        | some _ => { s with wait := none }
        | none => { s with wait := some { awaited with phase := .checking } }
    | none => s
  | .check =>
    match s.wait with
    | some awaited => { s with wait := some { awaited with phase := .inspecting } }
    | none => s
  | .giveUp => { s with wait := none }

/-- The step is a read that ends the wait, with success or with the application's failure. -/
def Decides (s : Launches Payload) (move : LaunchMove Payload) (awaited : Awaited) : Prop :=
  match move with
  | .read => s.wait = some awaited ∧ awaited.phase = .reading ∧
      ((parseStatus parse s.file).bind awaited.verdict).isSome = true
  | _ => False

/-- What ends a wait was written for the launch or the recall that is waited for, in
    this life of the daemon. -/
def BelievesOwn (s : Launches Payload) (move : LaunchMove Payload) : Prop :=
  ∀ awaited, s.Decides parse move awaited → s.author = some (s.life, awaited.token)

/-- The daemon does not read a decisive file before the runner that it has launched has
    cleared the directory. -/
def ClearedFirst (s : Launches Payload) (move : LaunchMove Payload) : Prop :=
  ∀ awaited, s.Decides parse move awaited → s.cleared = true

variable {payloadBytes parse appId deadline}

/-! ## What a session does in one move -/

variable (payloadBytes) in
theorem next_event (session : Session Payload) (envelope : Envelope (LifecycleEventBody Payload)) (written : Bool) :
    let later := session.next payloadBytes (.event envelope written)
    later.token = session.token ∧
      (later.published = session.published ∧ later.file = session.file ∨
        ∃ publication, publication.token = session.token.token ∧ later.published = session.published ++ [publication] ∧
          later.file = some (publication.bytes payloadBytes)) := by
  intro later
  by_cases publishes : session.publishes envelope = true
  · have current : envelope.body.token = session.token.token :=
      (Session.publishes_iff.mp publishes).2.2.2.1
    cases written with
    | true =>
      have after : later = session.write payloadBytes envelope true := by
        simp only [later, Session.next, publishes, if_true]
      rw [after]
      exact ⟨rfl, .inr ⟨⟨session.milestones, envelope⟩, current, rfl, rfl⟩⟩
    | false =>
      have after : later = session.write payloadBytes envelope false := by
        simp only [later, Session.next, publishes, if_true]
      rw [after]
      exact ⟨rfl, .inl ⟨rfl, rfl⟩⟩
  · simp only [later, Session.next, publishes]
    split
    · rename_i absurd'
      exact absurd absurd' (by simp)
    split
    · exact ⟨rfl, .inl ⟨rfl, rfl⟩⟩
    · exact ⟨rfl, .inl ⟨rfl, rfl⟩⟩

/-- A command publishes nothing. An epoch that it brings is the one it names. -/
theorem next_dispatch (session : Session Payload) (command : AppCommand Payload) :
    let later := session.next payloadBytes (.dispatch command)
    later.published = session.published ∧ later.file = session.file := by
  intro later
  simp only [later, Session.next]
  split
  · exact ⟨rfl, rfl⟩
  · exact ⟨rfl, rfl⟩

theorem dispatch_epoch (session : Session Payload) {command : AppCommand Payload} {bound : Nat}
    (low : session.token.token.foregroundEpoch < bound)
    (kind : command = .enterBackground ∨
      ∃ payload path epoch lease, command = .enterForeground payload path (some epoch) (some lease) ∧ epoch < bound) :
    (session.next payloadBytes (.dispatch command)).token.token.foregroundEpoch < bound := by
  rcases kind with rfl | ⟨payload, path, epoch, lease, rfl, fits⟩
  · exact low
  · simp only [Session.next, commandBody, TokenState.foregroundWithFence]
    split_ifs
    · exact low
    · exact low
    · exact fits

/-! ## What holds in every state -/

variable {s t : Launches Payload}

variable (payloadBytes) in
/-- What is known of a runner of the life. -/
def Known (s : Launches Payload) (life : Nat) : Runner Payload → Prop
  | .starting token => life = s.life → token.foregroundEpoch < s.nextEpoch
  | .running session =>
    session.Sound payloadBytes ∧ session.file = s.file ∧ (∀ author ∈ s.author, author.1 = life) ∧
      (life = s.life → session.token.token.foregroundEpoch < s.nextEpoch ∧ s.cleared = true)

/-- Before the directory is cleared, the file is not of the launch that is waited for;
    after that it is of this life. -/
def Waits (s : Launches Payload) (awaited : Awaited) : Prop :=
  if s.cleared then ∀ author ∈ s.author, author.1 = s.life
  else ∀ author ∈ s.author, author.1 = s.life → author.2.foregroundEpoch < awaited.token.foregroundEpoch

variable (payloadBytes) in
/-- The file is that of a publication, for the life and the token of its author. -/
def Authored (s : Launches Payload) : Prop :=
  s.file = none ∧ s.author = none ∨
    ∃ publication ∈ s.published, s.file = some (publication.bytes payloadBytes) ∧
      ∃ life, s.author = some (life, publication.token) ∧
        publication.envelope.validHeader = true ∧ publication.envelope.body.valid = true ∧
        publication.event.isNotification = false ∧ 0 < publication.token.foregroundEpoch

variable (payloadBytes) in
structure Sound (s : Launches Payload) : Prop where
  positive : 0 < s.nextEpoch
  authored : s.Authored payloadBytes
  author : ∀ author ∈ s.author, author.1 ≤ s.life ∧ (author.1 = s.life → author.2.foregroundEpoch < s.nextEpoch)
  runner : ∀ life runner, s.runner = some (life, runner) → life ≤ s.life ∧ s.Known payloadBytes life runner
  own : s.fence.isSome = true ∨ s.wait.isSome = true → ∀ life runner, s.runner = some (life, runner) → life = s.life
  waits : ∀ awaited ∈ s.wait, s.Waits awaited ∧ awaited.token.leaseId.isSome = true
  fence : ∀ fence ∈ s.fence, fence.leaseId.isSome = true

variable (payloadBytes) in
theorem initial_sound : Sound payloadBytes ({} : Launches Payload) where
  positive := Nat.one_pos
  authored := .inl ⟨rfl, rfl⟩
  author := nofun
  runner := nofun
  own := by simp
  waits := nofun
  fence := nofun

/-- A step that leaves the runner and the file alone. -/
theorem Sound.beside (sound : s.Sound payloadBytes) (life : t.life = s.life) (more : s.nextEpoch ≤ t.nextEpoch)
    (runner : t.runner = s.runner) (file : t.file = s.file) (fence : t.fence = s.fence) (cleared : t.cleared = s.cleared)
    (author : t.author = s.author) (published : t.published = s.published)
    (wait : ∀ awaited ∈ t.wait, ∃ before ∈ s.wait, awaited.token = before.token) : t.Sound payloadBytes := by
  refine ⟨Nat.lt_of_lt_of_le sound.positive more, ?_, ?_, ?_, ?_, ?_, fence ▸ sound.fence⟩
  · simpa only [Authored, file, author, published] using sound.authored
  · intro other member
    rw [author] at member
    obtain ⟨old, low⟩ := sound.author other member
    rw [life]
    exact ⟨old, fun now => Nat.lt_of_lt_of_le (low now) more⟩
  · intro other r found
    rw [runner] at found
    obtain ⟨old, runs⟩ := sound.runner other r found
    refine ⟨life ▸ old, ?_⟩
    cases r with
    | starting token => exact fun now => Nat.lt_of_lt_of_le (runs (now.trans life)) more
    | running session =>
      obtain ⟨session', same, mine, low⟩ := runs
      refine ⟨session', same.trans file.symm, author ▸ mine, fun now => ?_⟩
      obtain ⟨epoch, done⟩ := low (now.trans life)
      exact ⟨Nat.lt_of_lt_of_le epoch more, cleared.trans done⟩
  · rintro (registered | waiting) other r found
    · exact (sound.own (.inl (fence ▸ registered)) other r (runner ▸ found)).trans life.symm
    · obtain ⟨awaited, waits⟩ := Option.isSome_iff_exists.mp waiting
      obtain ⟨before, held, _⟩ := wait awaited waits
      exact (sound.own (.inr (Option.isSome_iff_exists.mpr ⟨before, held⟩)) other r (runner ▸ found)).trans life.symm
  · intro awaited waits
    obtain ⟨before, held, same⟩ := wait awaited waits
    obtain ⟨early, leased⟩ := sound.waits before held
    simpa only [Waits, cleared, author, life, same] using And.intro early leased

theorem Sound.restart (sound : s.Sound payloadBytes) : Sound payloadBytes
    { s with life := s.life + 1, nextGeneration := 1, nextEpoch := 1, fence := none, wait := none } := by
  refine ⟨Nat.one_pos, sound.authored, ?_, ?_, ?_, ?_, ?_⟩
  · intro author member
    have old := (sound.author author member).1
    exact ⟨Nat.le_succ_of_le old, fun now => absurd now (by show ¬ author.1 = s.life + 1; omega)⟩
  · intro life runner found
    obtain ⟨old, runs⟩ := sound.runner life runner found
    refine ⟨Nat.le_succ_of_le old, ?_⟩
    have earlier : ¬ life = s.life + 1 := by omega
    cases runner with
    | starting token => exact fun now => absurd now earlier
    | running session => exact ⟨runs.1, runs.2.1, runs.2.2.1, fun now => absurd now earlier⟩
  · simp
  · nofun
  · nofun

theorem Sound.exits (sound : s.Sound payloadBytes) : Sound payloadBytes { s with runner := none } :=
  { sound with runner := nofun, own := fun _ _ _ found => nomatch found }

theorem Sound.launch (sound : s.Sound payloadBytes) : (s.launch appId).Sound payloadBytes := by
  cases idle : s.runner with
  | some runner =>
    simp only [Launches.launch, idle]
    exact sound
  | none =>
    have epoch : (s.newToken appId).foregroundEpoch = s.nextEpoch := Nat.max_eq_left sound.positive
    simp only [Launches.launch, idle]
    refine ⟨Nat.succ_pos _, sound.authored, ?_, ?_, ?_, ?_, ?_⟩
    · intro author member
      obtain ⟨old, low⟩ := sound.author author member
      exact ⟨old, fun now => Nat.lt_succ_of_lt (low now)⟩
    · rintro life runner found
      cases Option.some.inj found
      exact ⟨Nat.le_refl _, fun _ => Nat.lt_succ_of_le (Nat.le_of_eq epoch)⟩
    · rintro _ life runner found
      cases Option.some.inj found
      rfl
    · intro awaited waits
      cases Option.some.inj waits
      refine ⟨?_, rfl⟩
      simp only [Waits, Bool.false_eq_true, if_false]
      intro author member now
      rw [epoch]
      exact (sound.author author member).2 now
    · intro fence registered
      cases Option.some.inj registered
      rfl

theorem Sound.clearStale (sound : s.Sound payloadBytes) : (s.clearStale deadline).Sound payloadBytes := by
  unfold Launches.clearStale
  split
  next life token found =>
    split
    next bridge prepared =>
      obtain ⟨old, low⟩ := sound.runner life _ found
      refine ⟨sound.positive, .inl ⟨rfl, rfl⟩, nofun, ?_, ?_, ?_, sound.fence⟩
      · intro other runner found'
        cases Option.some.inj found'
        refine ⟨old, Session.opened_sound payloadBytes prepared, rfl, nofun, fun now => ⟨?_, rfl⟩⟩
        have same : (Session.opened bridge : Session Payload).token.token.foregroundEpoch = token.foregroundEpoch := by
          unfold LifecycleBridge.prepare at prepared
          split at prepared
          next generation epoch lease generation' epoch' lease' =>
            split at prepared
            · cases prepared
            · cases Option.some.inj prepared
              exact (Option.some.inj epoch').symm
          next => cases prepared
        rw [same]
        exact low now
      · intro busy other runner found'
        cases Option.some.inj found'
        exact sound.own busy life _ found
      · intro awaited waits
        refine ⟨?_, (sound.waits awaited waits).2⟩
        simp [Waits]
    next => exact sound.exits
  next => exact sound

/-- The session goes on, and may publish. -/
theorem Sound.serve (sound : s.Sound payloadBytes) {life : Nat} {session later : Session Payload}
    (found : s.runner = some (life, .running session)) (kept : later.Sound payloadBytes)
    (low : life = s.life → later.token.token.foregroundEpoch < s.nextEpoch)
    (publishes : later.published = session.published ∧ later.file = session.file ∨
      ∃ publication, publication.token = session.token.token ∧ later.published = session.published ++ [publication] ∧
        later.file = some (publication.bytes payloadBytes)) : (s.serve life session later).Sound payloadBytes := by
  obtain ⟨old, sane, same, mine, current⟩ := sound.runner life _ found
  rcases publishes with ⟨silent, file⟩ | ⟨publication, token, more, file⟩
  · have still : s.serve life session later = { s with runner := some (life, .running later) } := by
      simp [Launches.serve, silent, file, same]
    rw [still]
    refine ⟨sound.positive, sound.authored, sound.author, ?_, ?_, sound.waits, sound.fence⟩
    · intro other runner found'
      cases Option.some.inj found'
      exact ⟨old, kept, file.trans same, mine, fun now => ⟨low now, (current now).2⟩⟩
    · intro busy other runner found'
      cases Option.some.inj found'
      exact sound.own busy life _ found
  · have after : s.serve life session later = { s with
        runner := some (life, .running later)
        file := some (publication.bytes payloadBytes)
        author := some (life, publication.token)
        published := s.published ++ [publication] } := by
      simp [Launches.serve, more, file]
    rw [after]
    obtain ⟨header, valid, kind, foreground⟩ := kept.checked publication (by rw [more]; simp)
    refine ⟨sound.positive, .inr ⟨publication, by simp, rfl, life, rfl, header, valid, kind, foreground⟩, ?_, ?_, ?_, ?_,
      sound.fence⟩
    · intro author member
      cases Option.some.inj member
      refine ⟨old, fun now => ?_⟩
      show publication.token.foregroundEpoch < s.nextEpoch
      rw [token]
      exact (current now).1
    · intro other runner found'
      cases Option.some.inj found'
      refine ⟨old, kept, file, ?_, fun now => ⟨low now, (current now).2⟩⟩
      intro author member
      cases Option.some.inj member
      rfl
    · intro busy other runner found'
      cases Option.some.inj found'
      exact sound.own busy life _ found
    · intro awaited waits
      have now := sound.own (.inr (Option.isSome_iff_exists.mpr ⟨awaited, waits⟩)) life _ found
      refine ⟨?_, (sound.waits awaited waits).2⟩
      have done := (current now).2
      simp only [Waits, done, if_true]
      intro author member
      cases Option.some.inj member
      exact now

theorem Sound.undo (sound : s.Sound payloadBytes) : Sound payloadBytes { s with wait := none } :=
  sound.beside rfl (Nat.le_refl _) rfl rfl rfl rfl rfl rfl nofun

/-- A wait on a runner of this life that has its session. -/
theorem Sound.await (sound : s.Sound payloadBytes) {life : Nat} {session : Session Payload}
    (found : s.runner = some (life, .running session)) (registered : s.fence.isSome = true) {awaited : Awaited}
    (leased : awaited.token.leaseId.isSome = true) : Sound payloadBytes { s with wait := some awaited } := by
  have now := sound.own (.inl registered) life _ found
  obtain ⟨_, _, _, mine, current⟩ := sound.runner life _ found
  refine { sound with own := fun _ => sound.own (.inl registered), waits := ?_ }
  intro other waits
  cases Option.some.inj waits
  have done := (current now).2
  refine ⟨?_, leased⟩
  simp only [Waits, done, if_true]
  exact fun author member => (mine author member).trans now

theorem Sound.command (sound : s.Sound payloadBytes) {command : AppCommand Payload} {awaited : Awaited} {acknowledged : Bool}
    (registered : s.fence.isSome = true) (leased : awaited.token.leaseId.isSome = true)
    (kind : command = .enterBackground ∨
      ∃ payload path epoch lease, command = .enterForeground payload path (some epoch) (some lease) ∧
        epoch < s.nextEpoch) :
    (s.command payloadBytes command awaited acknowledged).Sound payloadBytes := by
  unfold Launches.command
  split
  next life session found =>
    obtain ⟨_, sane, _, _, current⟩ := sound.runner life _ found
    have served := sound.serve found (Session.next_sound sane (.dispatch command))
      (fun now => dispatch_epoch session (current now).1 kind) (.inl (next_dispatch session command))
    cases acknowledged with
    | true => exact served.await rfl registered leased
    | false => exact served.undo
  next => exact sound.undo

/-- `register_runtime` of a recall. -/
theorem Sound.register (sound : s.Sound payloadBytes) {token : AppToken} (registered : s.fence.isSome = true)
    (leased : token.leaseId.isSome = true) :
    Sound payloadBytes { s with nextEpoch := s.nextEpoch + 1, fence := some token } := by
  have more : Sound payloadBytes { s with nextEpoch := s.nextEpoch + 1 } :=
    sound.beside rfl (Nat.le_succ _) rfl rfl rfl rfl rfl rfl fun awaited waits => ⟨awaited, waits, rfl⟩
  refine { more with own := fun _ => sound.own (.inl registered), fence := ?_ }
  intro fence member
  cases Option.some.inj member
  exact leased

theorem Sound.recallActive (sound : s.Sound payloadBytes) (resumePayload : Option Payload) (openPath : Option String)
    (acknowledged : Bool) : (s.recallActive payloadBytes resumePayload openPath acknowledged).Sound payloadBytes := by
  unfold Launches.recallActive
  cases registered : s.fence with
  | none => exact sound
  | some fence =>
    have epoch : (s.recallToken fence).foregroundEpoch = s.nextEpoch := Nat.max_eq_left sound.positive
    have known : s.fence.isSome = true := by rw [registered]; rfl
    refine (sound.register known rfl).command rfl rfl (.inr ⟨_, _, _, _, rfl, ?_⟩)
    exact Nat.lt_succ_of_le (Nat.le_of_eq epoch)

theorem Sound.park (sound : s.Sound payloadBytes) (acknowledged : Bool) :
    (s.park payloadBytes acknowledged).Sound payloadBytes := by
  unfold Launches.park
  cases registered : s.fence with
  | none => exact sound
  | some fence =>
    have known : s.fence.isSome = true := by rw [registered]; rfl
    exact sound.command known (sound.fence fence registered) (.inl rfl)

/-- The wait goes to another phase. -/
theorem Sound.phase (sound : s.Sound payloadBytes) {awaited : Awaited} (waits : s.wait = some awaited) (phase : WaitPhase) :
    Sound payloadBytes { s with wait := some { awaited with phase } } := by
  refine sound.beside rfl (Nat.le_refl _) rfl rfl rfl rfl rfl rfl fun other member => ?_
  cases Option.some.inj member
  exact ⟨awaited, waits, rfl⟩

theorem next_sound (sound : s.Sound payloadBytes) (move : LaunchMove Payload) :
    (s.next payloadBytes parse appId deadline move).Sound payloadBytes := by
  cases move with
  | restart => exact sound.restart
  | allocate generations epochs =>
    exact sound.beside rfl (Nat.le_add_right _ _) rfl rfl rfl rfl rfl rfl fun awaited waits => ⟨awaited, waits, rfl⟩
  | launch => exact sound.launch
  | recallActive resumePayload openPath acknowledged => exact sound.recallActive resumePayload openPath acknowledged
  | park acknowledged => exact sound.park acknowledged
  | clearStale => exact sound.clearStale
  | event envelope written =>
    simp only [next]
    split
    next life session found =>
      obtain ⟨_, sane, _, _, current⟩ := sound.runner life _ found
      obtain ⟨token, publishes⟩ := next_event payloadBytes session envelope written
      refine sound.serve found (Session.next_sound sane _) (fun now => ?_) publishes
      rw [token]
      exact (current now).1
    next => exact sound
  | disconnect =>
    simp only [next]
    split
    next life session found =>
      obtain ⟨_, sane, _, _, current⟩ := sound.runner life _ found
      exact sound.serve found (Session.next_sound sane _) (fun now => (current now).1) (.inl ⟨rfl, rfl⟩)
    next => exact sound
  | runnerExits => exact sound.exits
  | inspect =>
    simp only [next]
    split
    next awaited waits =>
      split
      · exact sound
      · exact sound.phase waits _
    next => exact sound
  | read =>
    simp only [next]
    split
    next awaited waits =>
      split
      · exact sound
      split
      · exact sound.undo
      · exact sound.phase waits _
    next => exact sound
  | check =>
    simp only [next]
    split
    next awaited waits => exact sound.phase waits _
    next => exact sound
  | giveUp => exact sound.undo

/-! ## Whose file a wait believes -/

/-- A verdict is on a status of the token. -/
theorem verdict_token {milestones : Milestones Payload} {envelope : Envelope (LifecycleEventBody Payload)} {awaited : Awaited}
    (decides : (awaited.verdict (said milestones envelope)).isSome = true) : envelope.body.token = awaited.token := by
  unfold Awaited.verdict LifecycleStatus.verdict at decides
  split at decides
  next same =>
    obtain ⟨app, generation, epoch, lease, -⟩ := same
    refine eventMatchesToken_iff.mp ?_
    simp only [eventMatchesToken, Bool.and_eq_true, beq_iff_eq]
    exact ⟨⟨⟨app, generation⟩, epoch⟩, lease⟩
  next => cases decides

theorem Sound.believes_iff (sound : s.Sound payloadBytes)
    (reads : ∀ publication ∈ s.published, parse (publication.bytes payloadBytes) = some publication.status)
    (move : LaunchMove Payload) : s.BelievesOwn parse move ↔ s.ClearedFirst parse move := by
  have each : ∀ awaited, s.Decides parse move awaited → (s.author = some (s.life, awaited.token) ↔ s.cleared = true) := by
    intro awaited decides
    cases move with
    | read =>
      obtain ⟨waits, _, verdict⟩ := decides
      have early := (sound.waits awaited waits).1
      obtain ⟨status, parsed, verdict⟩ : ∃ status, parseStatus parse s.file = some status ∧
          (awaited.verdict status).isSome = true := by
        cases parsed : parseStatus parse s.file with
        | none => simp [parsed] at verdict
        | some status => exact ⟨status, rfl, by simpa [parsed] using verdict⟩
      constructor
      · intro mine
        by_contra uncleared
        simp only [Waits, uncleared, if_false] at early
        have older := early _ mine rfl
        exact absurd older (Nat.lt_irrefl _)
      · intro done
        simp only [Waits, done, if_true] at early
        rcases sound.authored with ⟨gone, _⟩ | ⟨publication, member, file, life, author, header, valid, kind, foreground⟩
        · rw [gone] at parsed
          cases parsed
        · have now : life = s.life := early _ author
          have found := parseStatus_said kind (reads publication member) header valid foreground
          rw [← file, parsed] at found
          cases Option.some.inj found
          rw [author, now]
          exact congrArg (fun token => some (s.life, token)) (verdict_token verdict)
    | _ => cases decides
  constructor
  · exact fun believes awaited decides => (each awaited decides).mp (believes awaited decides)
  · exact fun cleared awaited decides => (each awaited decides).mpr (cleared awaited decides)

variable (payloadBytes parse appId deadline) in
/-- Where the parser reads what was published, a wait is ended by its own file exactly if
    the runner has cleared the directory before, in every life. -/
theorem believes_own_iff (moves : List (LaunchMove Payload))
    (reads : ∀ publication ∈ (moves.foldl (next payloadBytes parse appId deadline) {}).published,
      parse (publication.bytes payloadBytes) = some publication.status) (move : LaunchMove Payload) :
    (moves.foldl (next payloadBytes parse appId deadline) {}).BelievesOwn parse move ↔
      (moves.foldl (next payloadBytes parse appId deadline) {}).ClearedFirst parse move := by
  have step : ∀ (s : Launches Payload) move, s.Sound payloadBytes →
      (s.next payloadBytes parse appId deadline move).Sound payloadBytes := fun _ move sound => next_sound sound move
  have sound := Runs.run_invariant step moves (initial_sound payloadBytes)
  exact sound.believes_iff reads move

/-! ## A file of the daemon's earlier life -/

/-- What is published by the one runner that gets ready. -/
def readyPublished : List (Publication String) := [⟨{}, Wait.readyEvent⟩]

/-- One step of the sample's application. -/
def notesNext : Launches String → LaunchMove String → Launches String :=
  next textBytes (Session.tableParse readyPublished) Channel.notes 5000

/-- The application is launched and gets ready. -/
def ready : Launches String := ([.launch, .clearStale, .event Wait.readyEvent true] : List (LaunchMove String)).foldl notesNext {}

theorem ready_eq : ready =
    { nextGeneration := 2
      nextEpoch := 2
      runner := some (0, .running ((Session.opened Channel.notesBridge).write textBytes Wait.readyEvent true))
      file := some ((⟨{}, Wait.readyEvent⟩ : Publication String).bytes textBytes)
      fence := some Session.notesToken
      wait := some { token := Session.notesToken, parks := false }
      cleared := true
      author := some (0, Session.notesToken)
      published := readyPublished } := by
  have publishes : (Session.opened Channel.notesBridge : Session String).publishes Wait.readyEvent = true := by decide +kernel
  have started : ([.launch, .clearStale] : List (LaunchMove String)).foldl notesNext {} =
    { nextGeneration := 2
      nextEpoch := 2
      runner := some (0, .running (Session.opened Channel.notesBridge))
      fence := some Session.notesToken
      wait := some { token := Session.notesToken, parks := false }
      cleared := true } := rfl
  show notesNext (([.launch, .clearStale] : List (LaunchMove String)).foldl notesNext {}) (.event Wait.readyEvent true) = _
  rw [started]
  simp only [notesNext, next]
  rw [Session.next_publishes publishes]
  rfl

/-- The daemon is restarted, and launches the application again: it polls before the new
    runner has cleared the directory. -/
def relaunched : List (LaunchMove String) := [.restart, .runnerExits, .launch, .inspect]

theorem published_read {s : Launches String} (published : s.published = readyPublished) : ∀ publication ∈ s.published,
    Session.tableParse readyPublished (publication.bytes textBytes) = some publication.status := by
  rw [published]
  intro publication member
  rw [List.mem_singleton.mp member]
  simp [Session.tableParse, readyPublished]

theorem believes_own_ready :
    (([.launch, .clearStale, .event Wait.readyEvent true, .inspect] : List (LaunchMove String)).foldl notesNext {}).BelievesOwn
      (Session.tableParse readyPublished) .read := by
  have again : ([.launch, .clearStale, .event Wait.readyEvent true, .inspect] : List (LaunchMove String)).foldl notesNext {} =
    notesNext ready .inspect := rfl
  have read : ∀ publication ∈ (([.launch, .clearStale, .event Wait.readyEvent true, .inspect] :
      List (LaunchMove String)).foldl notesNext {}).published,
      Session.tableParse readyPublished (publication.bytes textBytes) = some publication.status := by
    refine published_read ?_
    rw [again, ready_eq]
    rfl
  refine (believes_own_iff textBytes (Session.tableParse readyPublished) Channel.notes 5000
    [.launch, .clearStale, .event Wait.readyEvent true, .inspect] read .read).mpr fun awaited decides => ?_
  show (notesNext ready .inspect).cleared = true
  rw [ready_eq]
  rfl

theorem relaunch_believes_stale :
    (∀ publication ∈ (relaunched.foldl notesNext ready).published,
      Session.tableParse readyPublished (publication.bytes textBytes) = some publication.status) ∧
    ¬ (relaunched.foldl notesNext ready).BelievesOwn (Session.tableParse readyPublished) .read := by
  refine ⟨published_read ?_, fun believes => ?_⟩
  · rw [ready_eq]
    rfl
  · have decides : (relaunched.foldl notesNext ready).Decides (Session.tableParse readyPublished) .read
        { token := Session.notesToken, parks := false, phase := .reading } := by
      rw [ready_eq]
      exact ⟨by decide +kernel, rfl, by decide +kernel⟩
    have own := believes _ decides
    rw [ready_eq] at own
    cases own

end Launches
end Remagic.Lifecycle
