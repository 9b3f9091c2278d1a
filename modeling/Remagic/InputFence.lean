import Remagic.InputContacts
import Remagic.PanelDamage
import Remagic.Runs

/-!
# Input stays behind the fences

A packet reaches a client only past every fence, each client hears a beginning
of each contact, and after a fence no more of it than the release. All this holds
in every run in which no press is routed for a surface whose client has not been
activated: such a press marks its contact as routed though nobody has heard it.
-/

namespace Remagic.Display
open Brackets
namespace InputState
variable {s t : InputState} {reached : Device → Option Nat} {owner : Nat → Device} {client : Nat}
  {commands : List PanelCommand}

/-! ## Steps apart from capture and dispatch -/

inductive Aside (s t : InputState) : Prop
  | calm (calm : Calm s t)
  | still (inactive : ∀ device, ¬ s.host.Active device) (activeTouches : t.host.activeTouches = s.host.activeTouches)
      (activePen : t.host.activePen = s.host.activePen) (inputEpoch : t.host.inputEpoch = s.host.inputEpoch)
      (queues : t.host.queues = s.host.queues)
  | fenced (fenced : s.host.Fenced t.host)

theorem Calm.refl (s : InputState) : Calm s s where
  activeTouches := rfl
  activePen := rfl
  suppressedTouches := rfl
  suppressedPen := rfl
  contacts := rfl
  inputEpoch := rfl
  requested := rfl
  lock := rfl
  prepared := id
  asked := fun _ _ asked => asked
  committed := fun _ committed => .inl committed
  logs := fun _ _ => rfl
  clients := fun _ _ _ _ connected => ⟨connected, id⟩

/-- The panel hears of something that shows no lease. -/
theorem calm_told {host : HostState} (others : asked commands = [])
    (same : host = { s.host with panel := host.panel, shutdown := host.shutdown, foreground := host.foreground })
    (requested : host.requested = s.host.requested) (queue : host.panel.commands = s.host.panel.commands ++ commands) :
    Calm s { s with host := host } := by
  have asks : asked host.panel.commands = asked s.host.panel.commands := by
    rw [queue, asked_append, others, List.append_nil]
  rw [same]
  exact { Calm.refl s with
    requested := requested
    asked := fun _ lease member => asks ▸ member }

theorem operated_aside (sound : s.ContactsSound reached owner) (clients : s.ClientsSound) {cancelled : Nat}
    {host : HostState} (operated : HostState.Operated cancelled s.host host) : Aside s { s with host := host } := by
  cases operated with
  | idle => exact .calm (.refl s)
  | shown lease command unlocked shows kind =>
    have others : asked [command] = [] := by rcases kind with rfl | ⟨rect, intent, rfl⟩ <;> rfl
    exact .calm (calm_told others rfl rfl rfl)
  | inked foreground enabled region unlocked shows =>
    have others : asked [.configureInk foreground.panelLease enabled region] = [] := rfl
    refine .calm (calm_told others rfl ?_ rfl)
    unfold HostState.requested
    rw [shows]
    rfl
  | held lock command locked kind =>
    have others : asked [command] = [] := by rcases kind with rfl | ⟨sequence, rfl⟩ <;> rfl
    exact .calm (calm_told others rfl rfl rfl)
  | switched lease fullRefresh unlocked admits =>
    exact .fenced (sound.fences clients ((s.host.sent (.setForeground lease.panelLease
      fullRefresh)).commitForegroundFence lease.key lease.generation lease.epoch) rfl rfl rfl rfl rfl rfl
      (fun _ => List.Sublist.refl _) rfl rfl rfl rfl)
  | prepared lease unlocked admits =>
    exact .fenced (sound.fences clients (s.host.commitForegroundFence lease.key lease.generation lease.epoch)
      rfl rfl rfl rfl rfl rfl (fun _ => List.Sublist.refl _) rfl rfl rfl rfl)
  | activated lease inkEnabled fullRefresh unlocked prepared =>
    refine .still (fun device active => ?_) rfl rfl rfl rfl
    have none := (sound.live device active).unprepared
    rw [prepared] at none
    cases none
  | withdrawn unlocked => exact .calm { Calm.refl s with prepared := fun _ => rfl }
  | cleared lease unlocked shows =>
    exact .fenced (sound.fences clients ({ s.host with preparedForeground := none }.sent (.clearForeground lease))
      rfl rfl rfl rfl rfl rfl
      (fun _ => List.Sublist.refl _) rfl rfl rfl rfl)
  | locked lease sleepEpoch unlocked unprepared newer admits =>
    exact .fenced (sound.fences clients ({ (s.host.sent (.showLock lease.panelLease
      sleepEpoch)).commitForegroundFence lease.key lease.generation lease.epoch with lastSleepEpoch := sleepEpoch })
      rfl rfl rfl rfl rfl rfl (fun _ => List.Sublist.refl _) rfl rfl rfl rfl)
  | finished lock locked acknowledged =>
    exact .fenced (sound.fences clients s.host rfl rfl rfl rfl rfl rfl (fun _ => List.Sublist.refl _)
      rfl rfl rfl rfl)

/-- A connection step that is none of the visible lease's. -/
theorem calm_connections {before after : Connection} (present : s.connections[client]? = some before)
    {surfaces : Int → Option SurfaceEntry} {panel : CommandChannel} {queues : Nat → InputQueue} {next : Nat}
    {shutdown : Bool} {prepared : Option ForegroundLease} (commands : List PanelCommand) (others : asked commands = [])
    (queue : panel.commands = s.host.panel.commands ++ commands)
    (unprepared : s.host.preparedForeground = none → prepared = none)
    (logs : ∀ client contact, (queues client).log contact = (s.host.queues client).log contact)
    (elsewhere : s.host.lock = none → ∀ lease, s.host.requested = some lease → before ≠ .active lease.key)
    (fewer : ∀ lease, s.host.requested = some lease → ∀ other, s.connections[other]? = some (.active lease.key) →
      other ∈ ({ s.host with surfaces := surfaces } : HostState).clientsOf lease.key →
      other ∈ s.host.clientsOf lease.key) :
    Calm s { s with
      host := { s.host with
        surfaces := surfaces, panel := panel, queues := queues, nextShmKey := next, shutdown := shutdown
        preparedForeground := prepared }
      connections := s.connections.set client after } := by
  have asks : asked panel.commands = asked s.host.panel.commands := by
    rw [queue, asked_append, others, List.append_nil]
  refine { Calm.refl s with
    prepared := unprepared
    asked := fun _ lease member => asks ▸ member
    logs := logs
    clients := fun unlocked lease other requested connected => ⟨?_, fewer lease requested other connected⟩ }
  rw [getElem?_set present, if_neg, connected]
  rintro rfl
  exact elsewhere unlocked lease requested (Option.some.inj (present.symm.trans connected))

theorem closed_logs (host : HostState) (client : Nat) (other contact : Nat) :
    (Function.update host.queues client (host.queues client).close other).log contact = (host.queues other).log contact := by
  by_cases same : other = client
  · rw [same, Function.update_self, InputQueue.close_log]
  · rw [Function.update_of_ne same]

theorem aborted_calm {key : Int} (registering : s.connections[client]? = some (.registering key)) :
    Calm s ({ s with host := s.host.abortRegistration key }.close client) := by
  have elsewhere : s.host.lock = none → ∀ lease, s.host.requested = some lease →
      Connection.registering key ≠ .active lease.key := by
    intro _ lease _ same
    cases same
  have removed : ∀ lease, s.host.requested = some lease → ∀ other, s.connections[other]? = some (.active lease.key) →
      other ∈ ({ s.host with surfaces := Function.update s.host.surfaces key none } : HostState).clientsOf lease.key →
      other ∈ s.host.clientsOf lease.key :=
    fun lease _ _ _ member => (s.host.clientsOf_dropped key lease.key).subset member
  rcases HostState.abortRegistration_spec (s := s.host) key with same | ⟨entry, _, _, same | same⟩
  · rw [same]
    exact calm_connections registering [] rfl (List.append_nil _).symm id (closed_logs s.host client) elsewhere
      fun _ _ _ _ member => member
  · rw [same]
    exact calm_connections registering [] rfl (List.append_nil _).symm id (closed_logs s.host client) elsewhere removed
  · rw [same]
    exact calm_connections registering [.dropSurface key] rfl rfl id (closed_logs s.host client) elsewhere removed

/-- A client that leaves takes the routed contacts along, or they were none of its. -/
theorem left_aside (sound : s.ContactsSound reached owner) (clients : s.ClientsSound) {key : Int} {host : HostState}
    (active : s.connections[client]? = some (.active key)) (departs : HostState.Departs s.host client key host) :
    Aside s ({ s with host := host }.close client) := by
  have away : ∀ told, HostState.Pruned (Function.update s.host.surfaces key none) (s.host.departed key told).surfaces := by
    rintro (_ | _) <;> exact .refl _
  have fewer : ∀ told other, ((s.host.departed key told).clientsOf other).Sublist (s.host.clientsOf other) := by
    intro told other
    exact (HostState.Pruned.clients (away told) other).trans (s.host.clientsOf_dropped key other)
  have first : ∀ told, s.host.Fenced (s.host.departed key told).fenceInputContacts := by
    intro told
    have same : (s.host.departed key told).activeTouches = s.host.activeTouches ∧
        (s.host.departed key told).activePen = s.host.activePen ∧
        (s.host.departed key told).contacts = s.host.contacts ∧
        (s.host.departed key told).inputEpoch = s.host.inputEpoch ∧
        (s.host.departed key told).queues = s.host.queues := by
      cases told <;> exact ⟨rfl, rfl, rfl, rfl, rfl⟩
    obtain ⟨touches, pen, contacts, epoch, queues⟩ := same
    exact sound.fences clients _ touches pen contacts (HostState.departed_requested key told) epoch queues (fewer told)
      rfl rfl rfl rfl
  have closed : ∀ {after : HostState}, s.host.Fenced after → Aside s ({ s with host := after }.close client) := by
    intro after fenced
    refine .fenced ⟨fenced.activeTouches, fenced.activePen, fenced.inputEpoch, fun other contact => ?_⟩
    have log : ({ s with host := after }.close client).host.log other contact = after.log other contact :=
      closed_logs after client other contact
    unfold HostState.Released
    rw [log]
    exact fenced.logs other contact
  cases departs with
  | absent unregistered => exact absurd unregistered (clients.held client key (.inr active))
  | shared entry others registered more kept =>
    -- Nobody else is a client of the surface.
    obtain ⟨other, member⟩ := List.exists_mem_of_ne_nil others more
    rw [kept] at member
    obtain ⟨inside, apart⟩ := List.mem_filter.mp member
    have known := clients.known key other (by simpa [HostState.clientsOf, registered] using inside)
    have same := clients.alone other client key (.inr known) (.inr active)
    simp [same] at apart
  | hidden entry told registered last stays =>
    have elsewhere : s.host.lock = none → ∀ lease, s.host.requested = some lease →
        Connection.active key ≠ .active lease.key := by
      intro unlocked lease requested same
      rw [Connection.active.injEq] at same
      subst same
      simp [HostState.leaseToClear, requested, unlocked] at stays
    have removed : ∀ lease, s.host.requested = some lease → ∀ other, s.connections[other]? = some (.active lease.key) →
        other ∈ ({ s.host with surfaces := Function.update s.host.surfaces key none } : HostState).clientsOf lease.key →
        other ∈ s.host.clientsOf lease.key :=
      fun lease _ _ _ member => (s.host.clientsOf_dropped key lease.key).subset member
    have unprepared : s.host.preparedForeground = none →
        (s.host.preparedForeground.filter fun prepared => prepared.key ≠ key) = none := by
      intro none
      rw [none]
      rfl
    cases told with
    | false =>
      exact .calm (calm_connections active [] rfl (List.append_nil _).symm unprepared (closed_logs s.host client)
        elsewhere removed)
    | true =>
      exact .calm (calm_connections active [.dropSurface key] rfl rfl unprepared (closed_logs s.host client) elsewhere
        removed)
  | stuck entry told lease registered last clears =>
    have fenced := first told
    exact closed ⟨fenced.activeTouches, fenced.activePen, fenced.inputEpoch, fenced.logs⟩
  | cleared entry told lease registered last clears =>
    refine closed (fenced_again (u := (s.host.departed key told).fenceInputContacts.sent (.clearForeground lease)) ?_
      (fun other => ?_) rfl rfl rfl rfl)
    · have fenced := first told
      exact ⟨fenced.activeTouches, fenced.activePen, fenced.inputEpoch, fenced.logs⟩
    · have pruned := HostState.fence_pruned (s.host.departed key told)
      exact (HostState.Pruned.clients pruned other).nodup ((fewer told other).nodup (clients.once other))

/-! ## What a step keeps -/

/-- Nothing more can be heard of the contact. -/
def Over (s : InputState) (contact : Nat) : Prop := contact < s.contacts ∧ ¬ s.Pressed contact ∧ ¬ s.Routes contact

structure InputSound (s : InputState) : Prop where
  leases : s.LeasesSound
  clients : s.ClientsSound
  contacts : ∃ reached owner, s.StreamsSound reached owner ∧ s.ContactsSound reached owner

/-- The step keeps the order, adds nothing to a contact that is over, and ends the
    routed contacts with a release if it fences. -/
structure Keeps (s t : InputState) : Prop where
  contacts : ∃ reached owner, t.StreamsSound reached owner ∧ t.ContactsSound reached owner
  ended : ∀ contact, s.Over contact → t.Over contact ∧
    ∀ client, (t.host.log client contact).Sublist (s.host.log client contact)
  fenced : s.host.inputEpoch < t.host.inputEpoch → ∀ contact, s.Routes contact → t.Over contact ∧
    ∀ client, (t.host.log client contact).Sublist (s.host.log client contact ++ [.closing])

theorem Aside.epoch (aside : Aside s t) : s.host.inputEpoch ≤ t.host.inputEpoch := by
  cases aside with
  | calm calm => exact calm.inputEpoch.ge
  | still inactive activeTouches activePen inputEpoch queues => exact inputEpoch.ge
  | fenced fenced => exact fenced.inputEpoch.le

theorem Aside.keeps (aside : Aside s t) (clients : s.ClientsSound) (streams : s.StreamsSound reached owner)
    (sound : s.ContactsSound reached owner) (penInput : t.penInput = s.penInput) (touchInput : t.touchInput = s.touchInput)
    (down : t.down = s.down) (contacts : t.contacts = s.contacts) : Keeps s t := by
  have streams' := streams.still penInput touchInput down contacts aside.epoch
  have pressed : ∀ {contact}, t.Pressed contact → s.Pressed contact := fun pressed => pressed.still penInput touchInput
  -- Without routed contacts a step has only to leave the logs alone.
  have silenced : (∀ device, ¬ t.host.Active device) → ∀ contact, contact < s.contacts → ¬ s.Pressed contact →
      t.Over contact := by
    intro inactive contact known unpressed
    exact ⟨contacts ▸ known, fun waits => unpressed (pressed waits), fun ⟨device, active, _⟩ => inactive device active⟩
  cases aside with
  | calm calm =>
    refine ⟨⟨reached, owner, streams', sound.calm calm penInput touchInput contacts⟩, fun contact ended => ?_,
      fun newer => absurd calm.inputEpoch newer.ne'⟩
    refine ⟨⟨contacts ▸ ended.1, fun waits => ended.2.1 (pressed waits), ?_⟩, fun client => ?_⟩
    · rintro ⟨device, active, rfl⟩
      exact ended.2.2 ⟨device, (calm.active device).mp active, by rw [calm.contacts]⟩
    · rw [calm.logs]
  | still inactive activeTouches activePen inputEpoch queues =>
    refine ⟨⟨reached, owner, streams', sound.still inactive activeTouches activePen queues penInput touchInput contacts⟩,
      fun contact ended => ⟨silenced ?_ contact ended.1 ended.2.1, fun client => ?_⟩, fun newer => absurd inputEpoch newer.ne'⟩
    · exact fun device active => inactive device ((HostState.active_iff activeTouches activePen device).mp active)
    · unfold HostState.log
      rw [queues]
  | fenced fenced =>
    have inactive : ∀ device, ¬ t.host.Active device := by
      rintro (_ | id) active
      · exact active fenced.activePen
      · simp [HostState.Active, fenced.activeTouches] at active
    refine ⟨⟨reached, owner, streams', sound.fenced clients fenced penInput touchInput contacts⟩,
      fun contact ended => ⟨silenced inactive contact ended.1 ended.2.1, fun client => ?_⟩, ?_⟩
    · rcases fenced.logs client contact with trimmed | ⟨_, _, device, active, number, _⟩
      · exact trimmed.sublist
      · exact absurd ⟨device, active, number⟩ ended.2.2
    · rintro _ contact ⟨device, active, rfl⟩
      have live := sound.live device active
      refine ⟨silenced inactive _ live.known live.unpressed, fun client => ?_⟩
      rcases fenced.logs client (s.host.contacts device) with trimmed | ⟨_, _, _, _, _, _, heard⟩
      · exact trimmed.sublist.trans (List.sublist_append_left _ _)
      · exact heard.sublist

/-! ## Capture -/

theorem StreamsSound.owners (sound : s.StreamsSound reached owner) {owner' : Nat → Device}
    (agrees : ∀ contact < s.contacts, owner' contact = owner contact) : s.StreamsSound reached owner' := by
  refine { sound with owned := fun device captured member => ?_, reachedOwned := ?_, downOwned := ?_ }
  · obtain ⟨owns, old, late⟩ := sound.owned device captured member
    exact ⟨(agrees _ old).trans owns, old, late⟩
  · intro device contact reaches
    obtain ⟨owns, old⟩ := sound.reachedOwned device contact reaches
    exact ⟨(agrees _ old).trans owns, old⟩
  · intro device contact down
    obtain ⟨owns, old⟩ := sound.downOwned device contact down
    exact ⟨(agrees _ old).trans owns, old⟩

theorem pressed_queued {frame : InputFrame} {contact other : Nat} (pressed : (s.queued frame contact).Pressed other) :
    s.Pressed other ∨ frame.part = .opening ∧ other = contact := by
  obtain ⟨device, captured, member, opens, same⟩ := pressed
  rw [channel_queued] at member
  split at member
  · rcases List.mem_append.mp member with old | new
    · exact .inl ⟨device, captured, old, opens, same⟩
    · rw [List.mem_singleton.mp new] at opens same
      exact .inr ⟨opens, same.symm⟩
  · exact .inl ⟨device, captured, member, opens, same⟩

theorem queued_keeps (streams : s.StreamsSound reached owner) (sound : s.ContactsSound reached owner)
    {frame : InputFrame} {contact count : Nat} {owner' : Nat → Device}
    (agrees : ∀ contact < s.contacts, owner' contact = owner contact)
    (continues : Continues (s.down frame.device) ⟨s.host.inputEpoch, frame, contact⟩)
    (owns : owner' contact = frame.device) (counted : s.contacts ≤ count) (known : contact < count)
    (fresh : frame.part = .opening → contact = s.contacts) :
    Keeps s { s.queued frame contact with contacts := count } := by
  have pressed : ∀ {other}, (s.queued frame contact).Pressed other → s.Pressed other ∨ other = s.contacts := by
    intro other waits
    rcases pressed_queued waits with old | ⟨opens, rfl⟩
    · exact .inl old
    · exact .inr (fresh opens)
  refine ⟨⟨reached, owner', (streams.owners agrees).queued continues owns counted known fresh, ?_⟩, fun other ended => ?_,
    fun newer => absurd newer (lt_irrefl _)⟩
  · refine ⟨sound.alone, sound.holder, fun device active => ?_, sound.heard, fun client other quiet => ?_⟩
    · have live := sound.live device active
      refine { live with
        owned := (agrees _ live.known).trans live.owned
        known := live.known.trans_le counted
        current := fun captured member => ?_
        unpressed := fun waits => ?_
        heeded := ?_ }
      · change captured ∈ (s.queued frame contact).channel device at member
        rw [channel_queued] at member
        split at member
        · rcases List.mem_append.mp member with old | new
          · exact live.current captured old
          · rw [List.mem_singleton.mp new]
            rfl
        · exact live.current captured member
      · have small := live.known
        rcases pressed waits with old | new
        · exact live.unpressed old
        · exact absurd new small.ne
      · obtain ⟨lease, client, heeded⟩ := live.heeded
        exact ⟨lease, client, heeded.requested, heeded.unasked, heeded.reached, heeded.connected, heeded.open',
          heeded.unheard⟩
    · refine sound.silent client other ?_
      rcases quiet with waits | new
      · exact (pressed waits).imp id fun same => same.ge
      · exact .inr (counted.trans new)
  · refine ⟨⟨ended.1.trans_le counted, fun waits => ?_, ended.2.2⟩, fun client => List.Sublist.refl _⟩
    rcases pressed waits with old | new
    · exact ended.2.1 old
    · exact absurd new ended.1.ne

/-! ## Dispatch -/

/-- The frame that the event dispatches. -/
def head (s : InputState) : HostEvent → Option CapturedInput
  | .dispatchPen => s.penInput.head?
  | .dispatchTouch => s.touchInput.head?
  | _ => none

/-- A press that passes every fence finds the surface's client activated. -/
def Received (s : InputState) (captured : CapturedInput) : Prop :=
  captured.frame.part = .opening → captured.epoch = s.host.inputEpoch →
    (s.host.suppressFencedContact captured.frame).1 = false → s.host.preparedForeground = none → s.host.lock = none →
    ∀ lease ∈ s.committed, s.host.requested = some lease → .active lease.key ∈ s.connections

section
variable {captured : CapturedInput}

/-- A frame that passes every fence and finds its device's contact routed goes on with it. -/
theorem ContactsSound.reaches (sound : s.ContactsSound reached owner) (streams : s.StreamsSound reached owner)
    (popped : Popped s t captured) {lease : PanelLease} (passes : s.host.Passes s.committed captured lease)
    (active : s.host.Active captured.frame.device) :
    captured.frame.part ≠ .opening ∧ captured.contact = s.host.contacts captured.frame.device := by
  obtain ⟨lease', client, heeded⟩ := (sound.live _ active).heeded
  have same : lease' = lease := Option.some.inj (heeded.requested.symm.trans passes.requested)
  have continues := streams.continues popped
  rw [heeded.reached (same ▸ passes.committed)] at continues
  exact continues

theorem dropped_keeps (streams : s.StreamsSound reached owner) (sound : s.ContactsSound reached owner)
    (popped : Popped s t captured) {touches : List Int} {pen : Bool} (refused : s.host.Refused s.committed captured)
    (fewer : ∀ device, ({ s.host with suppressedTouches := touches, suppressedPen := pen } : HostState).Suppressed device →
      s.host.Suppressed device)
    (host : t.host = { s.host with suppressedTouches := touches, suppressedPen := pen })
    (committed : t.committed = s.committed) (connections : t.connections = s.connections) : Keeps s t := by
  have active : ∀ device, t.host.Active device ↔ s.host.Active device :=
    HostState.active_iff (by rw [host]) (by rw [host])
  have contacts : t.host.contacts = s.host.contacts := by rw [host]
  have log : ∀ client contact, t.host.log client contact = s.host.log client contact := by
    rw [host]
    exact fun _ _ => rfl
  have head : captured ∈ s.channel captured.frame.device := popped.head ▸ List.mem_cons_self ..
  -- A routed contact's frame is dropped only once another lease than the requested is committed.
  have lost : s.host.Active captured.frame.device → ∀ lease, s.host.requested = some lease → s.committed ≠ some lease := by
    intro routed
    have live := sound.live _ routed
    cases refused with
    | stale late => exact absurd (live.current captured head) late
    | suppressed fenced => exact absurd fenced live.unsuppressed
    | prepared pending => exact absurd live.unprepared pending
    | locked held => exact absurd live.unlocked held
    | uncommitted differ => exact differ
    | inactive goesOn up => exact absurd routed up
  refine ⟨⟨_, owner, streams.popped popped (by rw [host]), ?_⟩, fun contact ended => ?_, fun newer => ?_⟩
  · refine ⟨by rw [host]; exact sound.alone, by rw [host]; exact sound.holder, fun device routed => ?_,
      fun client contact => ?_, fun client contact quiet => ?_⟩
    · have live := sound.live device ((active device).mp routed)
      obtain ⟨lease, client, heeded⟩ := live.heeded
      refine ⟨by rw [host]; exact live.unlocked, by rw [host]; exact live.unprepared,
        fun held => live.unsuppressed (fewer device (host ▸ held)), by rw [contacts]; exact live.owned,
        by rw [contacts, popped.contacts]; exact live.known, fun other member => ?_, fun waits => ?_, lease, client, ?_⟩
      · rw [host]
        exact live.current other (popped.member member)
      · rw [contacts] at waits
        exact live.unpressed (popped.pressed waits)
      · refine ⟨by rw [host]; exact heeded.requested, by rw [host]; exact heeded.unasked, fun shows => ?_,
          connections ▸ heeded.connected, fun member => ?_, fun other elsewhere => ?_⟩
        · rw [committed] at shows
          rw [contacts]
          by_cases mine : device = captured.frame.device
          · subst mine
            exact absurd shows (lost ((active _).mp routed) lease heeded.requested)
          · rw [Function.update_of_ne mine]
            exact heeded.reached shows
        · rw [log, contacts]
          exact heeded.open' (by rw [host] at member; exact member)
        · rw [log, contacts]
          exact heeded.unheard other elsewhere
    · rw [log]
      exact sound.heard client contact
    · rw [log]
      refine sound.silent client contact ?_
      rw [popped.contacts] at quiet
      exact quiet.imp popped.pressed id
  · refine ⟨⟨popped.contacts ▸ ended.1, fun waits => ended.2.1 (popped.pressed waits), ?_⟩, fun client => by rw [log]⟩
    rintro ⟨device, routed, rfl⟩
    exact ended.2.2 ⟨device, (active device).mp routed, by rw [contacts]⟩
  · rw [host] at newer
    exact absurd newer (lt_irrefl _)

/-- Whoever hears the delivered frame has heard the contact up to it. -/
theorem ContactsSound.listener (sound : s.ContactsSound reached owner) (streams : s.StreamsSound reached owner)
    (popped : Popped s t captured) {lease : PanelLease} {u : HostState}
    (passes : s.host.Passes s.committed captured lease) (routed : s.host.Routed captured lease u)
    (received : captured.frame.part = .opening → .active lease.key ∈ s.connections) :
    u.contacts captured.frame.device = captured.contact ∧
    ∃ client, s.connections[client]? = some (.active lease.key) ∧
      (∀ other ≠ client, s.host.log other captured.contact = []) ∧
      (client ∈ s.host.clientsOf lease.key →
        captured.frame.part = .opening ∧ s.host.log client captured.contact = [] ∨
        captured.frame.part ≠ .opening ∧ Open (s.host.log client captured.contact)) := by
  by_cases opens : captured.frame.part = .opening
  · obtain ⟨_, contacts⟩ := routed.opens opens
    obtain ⟨client, connected⟩ := List.getElem?_of_mem (received opens)
    have pressed : s.Pressed captured.contact :=
      ⟨captured.frame.device, captured, popped.head ▸ List.mem_cons_self .., opens, rfl⟩
    have unheard := fun client => sound.silent client captured.contact (.inl pressed)
    exact ⟨by rw [contacts, Function.update_self], client, connected, fun other _ => unheard other,
      fun _ => .inl ⟨opens, unheard client⟩⟩
  · obtain ⟨active, contacts⟩ := routed.goesOn opens
    obtain ⟨_, number⟩ := sound.reaches streams popped passes active
    obtain ⟨lease', client, heeded⟩ := (sound.live _ active).heeded
    have same : lease' = lease := Option.some.inj (heeded.requested.symm.trans passes.requested)
    subst same
    refine ⟨by rw [contacts, number], client, heeded.connected, fun other elsewhere => ?_, fun member => .inr ⟨opens, ?_⟩⟩
    · rw [number]
      exact heeded.unheard other elsewhere
    · rw [number]
      exact heeded.open' member

theorem delivered_keeps (leases : s.LeasesSound) (clients : s.ClientsSound) (streams : s.StreamsSound reached owner)
    (sound : s.ContactsSound reached owner) (popped : Popped s t captured) {lease : PanelLease} {u : HostState}
    (passes : s.host.Passes s.committed captured lease) (routed : s.host.Routed captured lease u)
    (received : captured.frame.part = .opening → .active lease.key ∈ s.connections)
    (host : t.host = (u.sendToKey lease.key (HostState.deliveryOf captured)).2) (pens : HostState.OnlyPen commands)
    (unmoved : HostState.Unmoved s.host t.host commands) (committed : t.committed = s.committed)
    (connections : t.connections = s.connections) : Keeps s t := by
  obtain ⟨number, client, connected, unheard, ready⟩ := sound.listener streams popped passes routed received
  have head : captured ∈ s.channel captured.frame.device := popped.head ▸ List.mem_cons_self ..
  obtain ⟨owns, known, late⟩ := streams.owned _ captured head
  obtain ⟨surfaces, queues, backpressure, pruned, same⟩ :=
    HostState.sendToKey_frame u lease.key (HostState.deliveryOf captured)
  rw [← host] at same
  have contacts : t.host.contacts = u.contacts := by rw [same]
  have epoch : t.host.inputEpoch = s.host.inputEpoch := by rw [same]; exact routed.inputEpoch
  have active : ∀ device, t.host.Active device ↔
      if device = captured.frame.device then captured.frame.part ≠ .closing else s.host.Active device := fun device =>
    (HostState.active_iff (by rw [same]) (by rw [same]) device).trans (routed.active device)
  have suppressed : ∀ device, t.host.Suppressed device → u.Suppressed device := by
    rw [same]
    rintro (_ | id) held <;> exact held
  have elsewhere : ∀ device, device ≠ captured.frame.device → u.contacts device = s.host.contacts device := by
    intro device other
    by_cases opens : captured.frame.part = .opening
    · rw [(routed.opens opens).2, Function.update_of_ne other]
    · rw [(routed.goesOn opens).2]
  have clientsOf : ∀ key, u.clientsOf key = s.host.clientsOf key := by
    intro key
    unfold HostState.clientsOf
    rw [routed.surfaces]
  have fewer : ∀ key, ∀ other ∈ t.host.clientsOf key, other ∈ s.host.clientsOf key := by
    intro key other member
    rw [← clientsOf]
    rw [same] at member
    exact (HostState.Pruned.clients pruned key).subset member
  have hears : ∀ other contact, Trimmed (s.host.log other contact) (t.host.log other contact) ∧
      (captured.contact = contact → other ∉ t.host.clientsOf lease.key) ∨
      captured.contact = contact ∧ other ∈ s.host.clientsOf lease.key ∧
        Heard (s.host.log other contact) (t.host.log other contact) captured.frame.part := by
    intro other contact
    have logs : u.log other contact = s.host.log other contact := by
      unfold HostState.log
      rw [routed.queues]
    have sent := HostState.sendToKey_log (s := u) (fun key => clientsOf key ▸ clients.once key) lease.key
      (HostState.deliveryOf captured) other contact
    rw [← host, logs, clientsOf, HostState.deliveryOf_part] at sent
    exact sent
  -- Only the listener is a client of the visible surface.
  have only : ∀ other ∈ s.host.clientsOf lease.key, other = client := fun other member =>
    clients.alone other client lease.key (.inr (clients.known lease.key other member)) (.inr connected)
  have unheard' : ∀ other ≠ client, t.host.log other captured.contact = [] := by
    intro other apart
    rcases hears other captured.contact with ⟨trimmed, _⟩ | ⟨_, member, _⟩
    · rw [unheard other apart] at trimmed
      exact trimmed.eq_nil
    · exact absurd (only other member) apart
  have listens : client ∈ t.host.clientsOf lease.key → captured.frame.part ≠ .closing →
      Open (t.host.log client captured.contact) := by
    intro member still
    rcases hears client captured.contact with ⟨_, gone⟩ | ⟨_, before, heard⟩
    · exact absurd member (gone rfl)
    · exact (heard.next (ready before)).1 still
  have asks : asked t.host.panel.commands = asked s.host.panel.commands := by
    rw [unmoved.commands, asked_append, asked_pens pens, List.append_nil]
  have unpressed := streams.not_pressed popped
  refine ⟨⟨_, owner, streams.popped popped epoch.ge, ?_⟩, fun contact ended => ?_, fun newer => absurd epoch newer.ne'⟩
  · refine ⟨by rw [same]; exact routed.alone sound.alone, fun holder last held => ?_, fun device routes => ?_,
      fun other contact => ?_, fun other contact quiet => ?_⟩
    · rw [same] at held
      rw [unmoved.requested, routed.owner holder last held]
      exact passes.requested
    · by_cases mine : device = captured.frame.device
      · subst mine
        rw [active, if_pos rfl] at routes
        refine ⟨unmoved.lock.trans passes.unlocked, unmoved.prepared.trans passes.unprepared,
          fun held => routed.unsuppressed (suppressed _ held), by rw [contacts, number]; exact owns,
          by rw [contacts, number, popped.contacts]; exact known, fun other member => ?_, by rw [contacts, number]; exact unpressed,
          lease, client, ?_⟩
        · have ordered := streams.ordered captured.frame.device
          rw [popped.head] at ordered
          have after := ((List.pairwise_cons.mp ordered).1 other member).1
          have before := (streams.owned _ other (popped.member member)).2.2
          rw [epoch]
          have now := passes.current
          omega
        · refine ⟨unmoved.requested.trans passes.requested, ?_, fun _ => ?_, connections ▸ connected, fun member => ?_,
            fun other apart => ?_⟩
          · rw [asks]
            exact leases.not_asked passes.committed
          · rw [Function.update_self, contacts, number]
            exact if_neg routes
          · rw [contacts, number]
            exact listens member routes
          · rw [contacts, number]
            exact unheard' other apart
      · rw [active, if_neg mine] at routes
        have live := sound.live device routes
        obtain ⟨lease', listener, heeded⟩ := live.heeded
        have still : t.host.contacts device = s.host.contacts device := by rw [contacts, elsewhere device mine]
        have apart : captured.contact ≠ s.host.contacts device := by
          intro equal
          refine mine ?_
          rw [← live.owned, ← equal, owns]
        refine ⟨unmoved.lock.trans live.unlocked, unmoved.prepared.trans live.unprepared,
          fun held => live.unsuppressed (routed.fewer device (suppressed device held)), by rw [still]; exact live.owned,
          by rw [still, popped.contacts]; exact live.known, fun other member => ?_, fun waits => ?_, lease', listener, ?_⟩
        · rw [epoch]
          exact live.current other (popped.member member)
        · rw [still] at waits
          exact live.unpressed (popped.pressed waits)
        · refine ⟨unmoved.requested.trans heeded.requested, by rw [asks]; exact heeded.unasked, fun shows => ?_,
            connections ▸ heeded.connected, fun member => ?_, fun other different => ?_⟩
          · rw [Function.update_of_ne mine, still]
            exact heeded.reached (committed ▸ shows)
          · rw [still]
            rcases hears listener (s.host.contacts device) with ⟨trimmed, _⟩ | ⟨equal, _⟩
            · exact (heeded.open' (fewer _ _ member)).trimmed trimmed
            · exact absurd equal apart
          · rw [still]
            rcases hears other (s.host.contacts device) with ⟨trimmed, _⟩ | ⟨equal, _⟩
            · rw [heeded.unheard other different] at trimmed
              exact trimmed.eq_nil
            · exact absurd equal apart
    · rcases hears other contact with ⟨trimmed, _⟩ | ⟨rfl, member, heard⟩
      · exact (sound.heard other contact).trimmed trimmed
      · have mine := only other member
        subst mine
        have next := heard.next (ready member)
        by_cases closes : captured.frame.part = .closing
        · exact (next.2 closes).isPartial
        · exact (next.1 closes).isPartial
    · rw [popped.contacts] at quiet
      rcases hears other contact with ⟨trimmed, _⟩ | ⟨rfl, _, _⟩
      · rw [sound.silent other contact (quiet.imp popped.pressed id)] at trimmed
        exact trimmed.eq_nil
      · rcases quiet with pressed | new
        · exact absurd pressed unpressed
        · omega
  · have other : captured.contact ≠ contact := by
      rintro rfl
      by_cases opens : captured.frame.part = .opening
      · exact ended.2.1 ⟨captured.frame.device, captured, head, opens, rfl⟩
      · obtain ⟨routes, _⟩ := routed.goesOn opens
        exact ended.2.2 ⟨_, routes, (sound.reaches streams popped passes routes).2.symm⟩
    refine ⟨⟨popped.contacts ▸ ended.1, fun waits => ended.2.1 (popped.pressed waits), ?_⟩, fun listener => ?_⟩
    · rintro ⟨device, routes, equal⟩
      by_cases mine : device = captured.frame.device
      · rw [mine, contacts, number] at equal
        exact other equal
      · rw [active, if_neg mine] at routes
        exact ended.2.2 ⟨device, routes, by rw [← equal, contacts, elsewhere device mine]⟩
    · rcases hears listener contact with ⟨trimmed, _⟩ | ⟨equal, _⟩
      · exact trimmed.sublist
      · exact absurd equal other

theorem dispatched_keeps (leases : s.LeasesSound) (clients : s.ClientsSound) (streams : s.StreamsSound reached owner)
    (sound : s.ContactsSound reached owner) (popped : Popped s t captured)
    (host : t.host = (s.host.dispatchCapturedInput s.committed captured).2) (committed : t.committed = s.committed)
    (connections : t.connections = s.connections) (received : s.Received captured) : Keeps s t := by
  have frame := HostState.dispatch_frame (s := s.host) s.committed captured
  have dispatched := HostState.dispatch_spec s.committed captured sound.holder fun opens lease passes active =>
    (sound.reaches streams popped passes active).1 opens
  rw [← host] at frame dispatched
  obtain ⟨commands, pens, unmoved, _⟩ := frame
  generalize after : t.host = host' at dispatched
  cases dispatched with
  | dropped touches pen refused fewer => exact dropped_keeps streams sound popped refused fewer after committed connections
  | delivered lease u passes unfenced routed =>
    refine delivered_keeps leases clients streams sound popped passes routed (fun opens => ?_) after pens unmoved
      committed connections
    exact received opens passes.current unfenced passes.unprepared passes.unlocked lease passes.committed passes.requested

end

/-! ## Every step -/

theorem connected_calm : Calm s { s with connections := s.connections ++ [.fresh] } := by
  refine { Calm.refl s with clients := fun _ lease client _ connected => ⟨?_, id⟩ }
  have inside := (List.getElem?_eq_some_iff.mp connected).1
  rw [List.getElem?_append_left inside]
  exact connected

theorem registered_calm {key : Int} (shmKey next : Nat) (fresh : s.connections[client]? = some .fresh) :
    Calm s { s with
      host := { (s.host.insertSurface key shmKey).sent (.registerSurface key shmKey) with nextShmKey := next }
      connections := s.connections.set client (.registering key) } := by
  refine calm_connections fresh [.registerSurface key shmKey] rfl rfl id (fun _ _ => rfl) (fun _ _ _ => nofun) ?_
  intro lease _ other _ member
  rw [HostState.clientsOf_update (s := s.host) rfl] at member
  split at member
  · cases member
  · exact member

theorem activated_calm {key : Int} (entry : SurfaceEntry)
    (registering : s.connections[client]? = some (.registering key)) :
    Calm s { s with
      host := { s.host with surfaces := Function.update s.host.surfaces key (some { entry with clients := [client] }) }
      connections := s.connections.set client (.active key) } := by
  refine calm_connections registering [] rfl (List.append_nil _).symm id (fun _ _ => rfl) (fun _ _ _ => nofun) ?_
  intro lease _ other connected member
  rw [HostState.clientsOf_update (s := s.host) rfl] at member
  split at member
  · -- The new client was not active before.
    rw [List.mem_singleton.mp member, registering] at connected
    cases connected
  · exact member

theorem refused_calm (next : Nat) (fresh : s.connections[client]? = some .fresh) :
    Calm s ({ s with host := { s.host with nextShmKey := next } }.close client) :=
  calm_connections fresh [] rfl (List.append_nil _).symm id (closed_logs s.host client) (fun _ _ _ => nofun)
    fun _ _ _ _ member => member

theorem received_calm (client : Nat) :
    Calm s { s with host := { s.host with
      queues := Function.update s.host.queues client (s.host.queues client).pop.2 } } := by
  refine { Calm.refl s with logs := fun other contact => ?_ }
  show (Function.update s.host.queues client (s.host.queues client).pop.2 other).log contact = (s.host.queues other).log contact
  by_cases same : other = client
  · rw [same, Function.update_self, InputQueue.pop_log]
  · rw [Function.update_of_ne same]

/-- The worker's steps, and what they let the panel announce. -/
theorem worked_calm (connected : Bool) {committed : Option PanelLease}
    (fewer : ∀ lease ∈ asked commands, lease ∈ asked s.host.panel.commands)
    (announces : ∀ lease, committed = some lease → s.committed = some lease ∨ lease ∈ asked s.host.panel.commands) :
    Calm s (s.afterWork commands connected committed) :=
  { Calm.refl s with
    asked := fun _ => fewer
    committed := announces }

/-- What a step that dispatches no frame is to the contacts. -/
inductive Turn (s : InputState) (owner : Nat → Device) (t : InputState) : Prop
  | aside (aside : Aside s t) (penInput : t.penInput = s.penInput) (touchInput : t.touchInput = s.touchInput)
      (down : t.down = s.down) (contacts : t.contacts = s.contacts)
  | captured (frame : InputFrame) (contact count : Nat) (owner' : Nat → Device)
      (agrees : ∀ contact < s.contacts, owner' contact = owner contact)
      (continues : Continues (s.down frame.device) ⟨s.host.inputEpoch, frame, contact⟩)
      (owns : owner' contact = frame.device) (counted : s.contacts ≤ count) (known : contact < count)
      (fresh : frame.part = .opening → contact = s.contacts)
      (after : t = { s.queued frame contact with contacts := count })

theorem stepped_turn (clients : s.ClientsSound) (streams : s.StreamsSound reached owner)
    (sound : s.ContactsSound reached owner) {event : HostEvent} (stepped : Stepped s event t)
    (captures : event.injects = false) (idle : s.head event = none) : Turn s owner t := by
  cases stepped with
  | idle => exact .aside (.calm (.refl s)) rfl rfl rfl rfl
  | connected => exact .aside (.calm connected_calm) rfl rfl rfl rfl
  | registered client key shmKey next fresh vacant =>
    exact .aside (.calm (registered_calm shmKey next fresh)) rfl rfl rfl rfl
  | refused client next fresh => exact .aside (.calm (refused_calm next fresh)) rfl rfl rfl rfl
  | activated client key entry registering held =>
    exact .aside (.calm (activated_calm entry registering)) rfl rfl rfl rfl
  | aborted client key registering => exact .aside (.calm (aborted_calm registering)) rfl rfl rfl rfl
  | left client key host active departs => exact .aside (left_aside sound clients active departs) rfl rfl rfl rfl
  | received client => exact .aside (.calm (received_calm client)) rfl rfl rfl rfl
  | operated cancelled host operated => exact .aside (operated_aside sound clients operated) rfl rfl rfl rfl
  | finished sleepEpoch =>
    exact .aside (.fenced (sound.fences clients s.host rfl rfl rfl rfl rfl rfl
      (fun _ => List.Sublist.refl _) rfl rfl rfl rfl)) rfl rfl rfl rfl
  | stopping commands only =>
    have others : asked commands = [] := asked_eq_nil fun command member => by rw [only command member]; rfl
    exact .aside (.calm (calm_told others rfl rfl rfl)) rfl rfl rfl rfl
  | began frame opens up =>
    refine .captured frame s.contacts (s.contacts + 1) (Function.update owner s.contacts frame.device)
      (fun contact old => ?_) ?_ (Function.update_self ..) (Nat.le_succ _) (Nat.lt_succ_self _) (fun _ => rfl) rfl
    · exact Function.update_of_ne old.ne _ _
    · rw [up]
      exact opens
  | continued frame contact goesOn down =>
    obtain ⟨owns, known⟩ := streams.downOwned frame.device contact down
    refine .captured frame contact s.contacts owner (fun _ _ => rfl) ?_ owns le_rfl known
      (fun opens => absurd opens goesOn) rfl
    rw [down]
    exact ⟨goesOn, rfl⟩
  | dispatchedPen captured rest queue =>
    simp [head, queue] at idle
  | dispatchedTouch captured rest queue =>
    simp [head, queue] at idle
  | injected epoch frame => cases captures
  | worked command rest commands connected committed queue taken announces =>
    refine .aside (.calm (worked_calm connected (fun lease member => ?_) fun lease shows => ?_)) rfl rfl rfl rfl
    · rw [queue]
      exact (asked_sublist (taken.trans (List.sublist_cons_self ..))).subset member
    · rcases announces with same | gone | ⟨_, same⟩
      · exact .inl (same ▸ shows)
      · rw [gone] at shows
        cases shows
      · rw [queue]
        exact .inr (List.mem_filterMap.mpr ⟨command, List.mem_cons_self .., same ▸ shows⟩)
  | flushed commands connected committed taken announces =>
    refine .aside (.calm (worked_calm connected (fun lease member => (asked_sublist taken).subset member)
      fun lease shows => ?_)) rfl rfl rfl rfl
    rcases announces with same | gone
    · exact .inl (same ▸ shows)
    · rw [gone] at shows
      cases shows

theorem Turn.keeps (turn : Turn s owner t) (clients : s.ClientsSound) (streams : s.StreamsSound reached owner)
    (sound : s.ContactsSound reached owner) : Keeps s t := by
  cases turn with
  | aside aside penInput touchInput down contacts =>
    exact aside.keeps clients streams sound penInput touchInput down contacts
  | captured frame contact count owner' agrees continues owns counted known fresh after =>
    rw [after]
    exact queued_keeps streams sound agrees continues owns counted known fresh

/-- What a step adds to what a client hears without a frame: the release of a routed
    contact, if it fences. -/
theorem Turn.adds (turn : Turn s owner t) (client contact : Nat) :
    (t.host.log client contact).Sublist (s.host.log client contact) ∨
      s.host.inputEpoch < t.host.inputEpoch ∧ s.Routes contact ∧
        (t.host.log client contact).Sublist (s.host.log client contact ++ [.closing]) := by
  cases turn with
  | aside aside penInput touchInput down contacts =>
    cases aside with
    | calm calm => exact .inl (by rw [calm.logs])
    | still inactive activeTouches activePen inputEpoch queues =>
      left
      unfold HostState.log
      rw [queues]
    | fenced fenced =>
      rcases fenced.logs client contact with trimmed | ⟨_, _, device, active, number, _, heard⟩
      · exact .inl trimmed.sublist
      · exact .inr ⟨fenced.inputEpoch, ⟨device, active, number⟩, heard.sublist⟩
  | captured frame contact count owner' agrees continues owns counted known fresh after =>
    rw [after]
    exact .inl (List.Sublist.refl _)

/-- A dispatched frame reaches only the clients of a lease behind every fence. -/
theorem ContactsSound.delivers (sound : s.ContactsSound reached owner) (clients : s.ClientsSound)
    (streams : s.StreamsSound reached owner) {captured : CapturedInput} (popped : Popped s t captured)
    (host : t.host = (s.host.dispatchCapturedInput s.committed captured).2)
    (changed : t.host.queues client ≠ s.host.queues client) :
    ∃ lease, s.host.Passes s.committed captured lease ∧ client ∈ s.host.clientsOf lease.key := by
  have dispatched := HostState.dispatch_spec s.committed captured sound.holder fun opens lease passes active =>
    (sound.reaches streams popped passes active).1 opens
  rw [← host] at dispatched
  generalize t.host = after at dispatched changed
  cases dispatched with
  | dropped touches pen refused fewer => exact absurd rfl changed
  | delivered lease u passes unfenced routed =>
    refine ⟨lease, passes, ?_⟩
    have same : ∀ key, u.clientsOf key = s.host.clientsOf key := by
      intro key
      unfold HostState.clientsOf
      rw [routed.surfaces]
    by_contra absent
    refine changed ?_
    rw [HostState.sendToKey_others (fun key => same key ▸ clients.once key) (same lease.key ▸ absent), routed.queues]

end InputState

namespace DisplayHost
open InputState
variable {s : DisplayHost} {event : HostEvent}

/-- A dispatcher waits for the operations' lock, or takes the first frame of its channel. -/
theorem next_head {captured : CapturedInput} (head : s.input.head event = some captured) {reached : Device → Option Nat}
    {owner : Nat → Device} (streams : s.input.StreamsSound reached owner) :
    s.next event = s ∨ s.foregroundOps = none ∧ Popped s.input (s.next event).input captured ∧
      (s.next event).input.host = (s.input.host.dispatchCapturedInput s.input.committed captured).2 ∧
      (s.next event).input.committed = s.input.committed ∧ (s.next event).input.connections = s.input.connections := by
  cases ops : s.foregroundOps with
  | some waiting =>
    left
    cases event <;> simp [InputState.head] at head <;> simp [next, exclusively, ops]
  | none =>
    right
    cases event with
    | dispatchPen =>
      obtain ⟨rest, queue⟩ : ∃ rest, s.penInput = captured :: rest := List.head?_eq_some_iff.mp head
      have after : s.next .dispatchPen = { s with penInput := rest }.dispatch captured := by
        simp [next, exclusively, ops, dispatchPen, queue]
      rw [after]
      exact ⟨rfl, popped_pen streams queue _, rfl, rfl, rfl⟩
    | dispatchTouch =>
      obtain ⟨rest, queue⟩ : ∃ rest, s.touchInput = captured :: rest := List.head?_eq_some_iff.mp head
      have after : s.next .dispatchTouch = { s with touchInput := rest }.dispatch captured := by
        simp [next, exclusively, ops, dispatchTouch, queue]
      rw [after]
      exact ⟨rfl, popped_touch streams queue _, rfl, rfl, rfl⟩
    | _ => cases head

/-- No press is dispatched that passes every fence while nobody listens. -/
def Spares (s : DisplayHost) (event : HostEvent) : Prop :=
  s.foregroundOps = none → ∀ captured ∈ s.input.head event, s.input.Received captured

theorem next_keeps (sound : s.input.InputSound) (captures : event.injects = false) (spares : s.Spares event) :
    Keeps s.input (s.next event).input := by
  obtain ⟨reached, owner, streams, contacts⟩ := sound.contacts
  cases head : s.input.head event with
  | none =>
    exact (stepped_turn sound.clients streams contacts (next_stepped s event) captures head).keeps sound.clients streams
      contacts
  | some captured =>
    rcases next_head head streams with same | ⟨free, popped, host, committed, connections⟩
    · rw [same]
      exact (Aside.calm (Calm.refl s.input)).keeps sound.clients streams contacts rfl rfl rfl rfl
    · exact dispatched_keeps sound.leases sound.clients streams contacts popped host committed connections
        (spares free captured head)

theorem next_inputSound (sound : s.input.InputSound) (captures : event.injects = false) (spares : s.Spares event) :
    (s.next event).input.InputSound :=
  ⟨stepped_leasesSound sound.leases (next_stepped s event), stepped_clientsSound sound.clients (next_stepped s event),
    (next_keeps sound captures spares).contacts⟩

theorem start_inputSound (shm : Nat → SharedSurface) (backend : PanelBackend) : (start shm backend).input.InputSound := by
  have pending : ∀ device, (start shm backend).input.channel device = [] := by rintro (_ | id) <;> rfl
  have inactive : ∀ device, ¬ (start shm backend).input.host.Active device := by
    rintro (_ | id) active
    · exact active rfl
    · exact absurd active List.not_mem_nil
  have unheld : ∀ client key, ¬ (start shm backend).input.Holds client key := by
    rintro client key (held | held) <;> cases held
  refine ⟨⟨List.nodup_nil, nofun⟩, ⟨nofun, fun _ => List.nodup_nil, fun client key held => absurd held (unheld client key),
    fun client _ key held => absurd held (unheld client key)⟩, fun _ => none, fun _ => .pen, ?_, ?_⟩
  · refine ⟨fun device captured member => ?_, fun device => ?_, fun device captured member => ?_, nofun, nofun,
      fun device => ?_⟩
    · rw [pending] at member
      cases member
    · unfold InputState.pending
      rw [pending]
      rfl
    · rw [pending] at member
      cases member
    · rw [pending]
      exact List.Pairwise.nil
  · exact ⟨List.nodup_nil, nofun, fun device active => absurd active (inactive device), fun _ _ => partial_nil,
      fun _ _ _ => rfl⟩

/-! ## Runs -/

theorem run_inputSound {shm : Nat → SharedSurface} {backend : PanelBackend} {events : List HostEvent}
    (along : Runs.Along next (fun s event => event.injects = false ∧ s.Spares event) (start shm backend) events) :
    (events.foldl next (start shm backend)).input.InputSound :=
  along.invariant (fun s => s.input.InputSound)
    (fun _ _ sound spares => next_inputSound sound spares.1 spares.2) (start_inputSound shm backend)

/-- Nothing is added to a contact that is over. -/
theorem run_over {contact : Nat} {events : List HostEvent} (sound : s.input.InputSound) (ended : s.input.Over contact)
    (along : Runs.Along next (fun s event => event.injects = false ∧ s.Spares event) s events) (client : Nat) :
    ((events.foldl next s).host.log client contact).Sublist (s.host.log client contact) := by
  refine (along.invariant (fun t => t.input.InputSound ∧ t.input.Over contact ∧
    (t.host.log client contact).Sublist (s.host.log client contact)) ?_ ⟨sound, ended, List.Sublist.refl _⟩).2.2
  rintro t event ⟨sound, ended, fewer⟩ ⟨captures, spares⟩
  obtain ⟨ended', fewer'⟩ := (next_keeps sound captures spares).ended contact ended
  exact ⟨next_inputSound sound captures spares, ended', (fewer' client).trans fewer⟩

end DisplayHost

open DisplayHost in
/-- Let no press be routed for a surface whose connection is not activated. Then a step
    that dispatches a frame reaches only the clients of the lease that is requested and
    committed, past every fence, and no other step adds to what a client hears but a
    fence's release. What a client hears of a contact is a press, its updates and its
    release, up to some point. And once a step has fenced, a client hears no more of a
    contact that was routed than the release. -/
theorem input_stays_fenced (shm : Nat → SharedSurface) (backend : PanelBackend) (events later : List HostEvent)
    (event : HostEvent) (captures : ∀ e ∈ events ++ event :: later, e.injects = false)
    (spares : Runs.Along next Spares (start shm backend) (events ++ event :: later)) :
    let s := events.foldl next (start shm backend)
    let t := s.next event
    (∀ captured ∈ s.input.head event, ∀ client, t.host.queues client ≠ s.host.queues client →
      ∃ lease, s.host.Passes s.input.committed captured lease ∧ client ∈ s.host.clientsOf lease.key) ∧
    (s.input.head event = none → ∀ client contact,
      (t.host.log client contact).Sublist (s.host.log client contact) ∨
      s.host.inputEpoch < t.host.inputEpoch ∧ s.input.Routes contact ∧
        (t.host.log client contact).Sublist (s.host.log client contact ++ [.closing])) ∧
    (∀ client contact, Partial (t.host.log client contact)) ∧
    (s.host.inputEpoch < t.host.inputEpoch → ∀ contact, s.input.Routes contact → ∀ client,
      ((later.foldl next t).host.log client contact).Sublist (s.host.log client contact ++ [.closing])) := by
  intro s t
  obtain ⟨along, ⟨captured, spared⟩, rest⟩ := Runs.along_append.mp (spares.both captures)
  have sound : s.input.InputSound := run_inputSound along
  have sound' : t.input.InputSound := next_inputSound sound captured spared
  have keeps : InputState.Keeps s.input t.input := next_keeps sound captured spared
  obtain ⟨reached, owner, streams, contacts⟩ := sound.contacts
  refine ⟨fun captured head client changed => ?_, fun idle => ?_, fun client contact => ?_, fun newer contact routes client => ?_⟩
  · rcases next_head head streams with same | ⟨_, popped, host, _, _⟩
    · exact absurd (by rw [show t = s from same]) changed
    · exact contacts.delivers sound.clients streams popped host changed
  · exact (InputState.stepped_turn sound.clients streams contacts (next_stepped s event) captured idle).adds
  · obtain ⟨_, _, _, contacts'⟩ := sound'.contacts
    exact contacts'.heard client contact
  · obtain ⟨ended, fewer⟩ := keeps.fenced newer contact routes
    exact (run_over sound' ended rest client).trans (fewer client)

/-! ## A press that nobody hears -/

instance (s : InputState) (captured : CapturedInput) : Decidable (s.Received captured) :=
  inferInstanceAs (Decidable (_ → _ → _ → _ → _ → ∀ lease ∈ s.committed, _))

instance (s : DisplayHost) (event : HostEvent) : Decidable (s.Spares event) :=
  inferInstanceAs (Decidable (_ → ∀ captured ∈ s.input.head event, _))

namespace Sample

def finger (phase : TouchPhase) : InputFrame := .touch ⟨phase, 5, 1, 1, 64⟩

/-- An application is shown and a finger is put down on it. -/
def touched : List HostEvent :=
  [.connect, .register 0 1 2 2 .rgb565 ⟨0, none⟩, .activateClient 0, .setForeground 1 1 1 false, .work 0 none,
    .work 1 (some 1), .capture (finger .down), .dispatchTouch]

/-- The same, but the reply to the application's registration is not yet through when
    the finger is put down. -/
def unheard : List HostEvent :=
  [.connect, .register 0 1 2 2 .rgb565 ⟨0, none⟩, .setForeground 1 1 1 false, .work 0 none, .work 1 (some 1),
    .capture (finger .down), .dispatchTouch, .activateClient 0, .capture (finger .move), .dispatchTouch]

end Sample

open DisplayHost Sample in
/-- The next application takes the foreground while the finger is down. -/
theorem input_stays_fenced_touched :
    let s := touched.foldl next (start (fun _ => tile) glass)
    let t := s.next (.prepareForeground 1 1 2)
    (∀ captured ∈ s.input.head (.prepareForeground 1 1 2), ∀ client, t.host.queues client ≠ s.host.queues client →
      ∃ lease, s.host.Passes s.input.committed captured lease ∧ client ∈ s.host.clientsOf lease.key) ∧
    (s.input.head (.prepareForeground 1 1 2) = none → ∀ client contact,
      (t.host.log client contact).Sublist (s.host.log client contact) ∨
      s.host.inputEpoch < t.host.inputEpoch ∧ s.input.Routes contact ∧
        (t.host.log client contact).Sublist (s.host.log client contact ++ [.closing])) ∧
    (∀ client contact, Partial (t.host.log client contact)) ∧
    (s.host.inputEpoch < t.host.inputEpoch → ∀ contact, s.input.Routes contact → ∀ client,
      (([.capture (finger .move), .dispatchTouch].foldl next t).host.log client contact).Sublist
        (s.host.log client contact ++ [.closing])) :=
  input_stays_fenced (fun _ => tile) glass touched [.capture (finger .move), .dispatchTouch] (.prepareForeground 1 1 2)
    (by decide) (by decide)

open DisplayHost Sample in
/-- A press marks its contact as routed although no client is there to hear it, so the
    client that comes hears an update first. -/
theorem unheard_press_routes_contact :
    ¬ ∀ (shm : Nat → SharedSurface) (backend : PanelBackend) (events : List HostEvent),
      (∀ event ∈ events, event.injects = false) →
      ∀ client contact, Partial ((events.foldl next (start shm backend)).host.log client contact) := by
  intro partials
  have heard : (unheard.foldl next (start (fun _ => tile) glass)).host.log 0 0 = [.inside] := by decide
  obtain ⟨n, beginning⟩ := partials (fun _ => tile) glass unheard (by decide) 0 0
  rw [heard, List.cons_prefix_cons] at beginning
  exact absurd beginning.1 (by decide)

end Remagic.Display
