import Remagic.TouchRouting

/-!
# Whose fingers are down

A client that has heard all its packets takes a finger to be down only while
the host routes that finger to it. No step leaves it waiting for a release: a
fence sends the release before the foreground moves on.
-/

namespace Remagic.Display
open HostState

namespace InputState
variable {s t : InputState} {key : Int}

/-- A client with an open queue takes only routed fingers to be down, while it has the foreground. -/
structure TouchesSound (s : InputState) : Prop where
  routed : ∀ client finger, (s.host.queues client).closed = false → (s.host.queues client).presses finger = true →
    ∃ key foreground, s.connections[client]? = some (.active key) ∧ s.host.foreground = some foreground ∧
      foreground.key = key ∧ ∃ deviceId ∈ s.host.activeTouches, onWire deviceId = finger
  listens : ∀ client key, (s.host.queues client).closed = false → s.connections[client]? = some (.active key) →
    client ∈ s.host.clientsOf key
  prepared : s.host.preparedForeground ≠ none → s.host.activeTouches = []

/-- The step keeps this, opens no queue and takes nothing back from a client. -/
structure TouchStep (s t : InputState) : Prop where
  sound : t.TouchesSound
  received : ∀ client, (t.host.queues client).closed = false →
    (s.host.queues client).closed = false ∧ (s.host.queues client).received <+: (t.host.queues client).received

/-- Only the host and the connections matter. -/
theorem TouchStep.like {u : InputState} (step : TouchStep s t) (host : u.host = t.host)
    (connections : u.connections = t.connections) : TouchStep s u := by
  obtain ⟨⟨routed, listens, prepared⟩, received⟩ := step
  rw [← host] at routed listens prepared received
  rw [← connections] at routed listens
  exact ⟨⟨routed, listens, prepared⟩, received⟩

/-- The connections that are left are those that were there. -/
def Stays (s t : InputState) : Prop :=
  ∀ client key, (t.host.queues client).closed = false →
    (t.connections[client]? = some (.active key) ↔ s.connections[client]? = some (.active key))

theorem TouchesSound.hushed (sound : s.TouchesSound) (stays : s.Stays t)
    (hushed : ∀ client, Hushed s.host t.host client)
    (shows : ∀ foreground, s.host.foreground = some foreground →
      ∃ after, t.host.foreground = some after ∧ after.key = foreground.key)
    (keeps : ∀ deviceId ∈ s.host.activeTouches, deviceId ∈ t.host.activeTouches)
    (prepared : t.host.preparedForeground ≠ none → t.host.activeTouches = []) : TouchStep s t := by
  refine ⟨⟨fun client finger opened down => ?_, fun client key opened active => ?_, prepared⟩, fun client opened => ?_⟩
  · obtain ⟨was, _, _, fewer⟩ := hushed client opened
    obtain ⟨key, foreground, active, visible, mine, deviceId, routed, its⟩ := sound.routed client finger was (fewer finger down)
    obtain ⟨after, visible', same⟩ := shows foreground visible
    exact ⟨key, after, (stays client key opened).mpr active, visible', same.trans mine, deviceId, keeps deviceId routed, its⟩
  · obtain ⟨was, _, members, _⟩ := hushed client opened
    exact members key (sound.listens client key was ((stays client key opened).mp active))
  · obtain ⟨was, received, _, _⟩ := hushed client opened
    exact ⟨was, received ▸ List.prefix_refl _⟩

/-- All fingers are lifted for everyone. -/
theorem TouchesSound.lifted (sound : s.TouchesSound) (stays : s.Stays t)
    (hushed : ∀ client, Hushed s.host t.host client)
    (lifted : ∀ client finger, (t.host.queues client).closed = false → (t.host.queues client).presses finger = false)
    (active : t.host.activeTouches = []) : TouchStep s t := by
  refine ⟨⟨fun client finger opened down => ?_, fun client key opened active => ?_, fun _ => active⟩,
    fun client opened => ?_⟩
  · rw [lifted client finger opened] at down
    cases down
  · obtain ⟨was, _, members, _⟩ := hushed client opened
    exact members key (sound.listens client key was ((stays client key opened).mp active))
  · obtain ⟨was, received, _, _⟩ := hushed client opened
    exact ⟨was, received ▸ List.prefix_refl _⟩

/-- A fence lifts a client's fingers while the client is one of the foreground's. -/
theorem TouchesSound.lifts (sound : s.TouchesSound) {before : HostState} (once : ∀ key, (before.clientsOf key).Nodup)
    {client : Nat} (hushed : Hushed s.host before client) (foreground : before.foreground = s.host.foreground)
    (active : before.activeTouches = s.host.activeTouches)
    (opened : (before.fenceInputContacts.queues client).closed = false) (finger : Int32) :
    (before.fenceInputContacts.queues client).presses finger = false := by
  obtain ⟨quiet, lifted⟩ := @fence_presses before client once
  obtain ⟨opened', _, _, fewer⟩ := quiet opened
  obtain ⟨was, _, members, fewer'⟩ := hushed opened'
  by_contra down
  have down : (before.fenceInputContacts.queues client).presses finger = true := by simpa using down
  obtain ⟨key, visible, connected, shown, mine, deviceId, routed, rfl⟩ :=
    sound.routed client finger was (fewer' finger (fewer finger down))
  have member := members key (sound.listens client key was connected)
  rw [lifted opened visible (foreground.trans shown) (mine ▸ member) deviceId (active ▸ routed)] at down
  cases down

theorem fence_active (host : HostState) : host.fenceInputContacts.activeTouches = [] := by
  obtain ⟨_, _, _, _, _, _, same⟩ := fence_frame host
  rw [same]
  rfl

/-- An operation that fences before it does anything else. -/
theorem TouchesSound.fences (sound : s.TouchesSound) (clients : s.ClientsSound) (before : HostState) {after : HostState}
    (queues : before.queues = s.host.queues) (surfaces : before.surfaces = s.host.surfaces)
    (foreground : before.foreground = s.host.foreground) (active : before.activeTouches = s.host.activeTouches)
    (queues' : after.queues = before.fenceInputContacts.queues)
    (surfaces' : after.surfaces = before.fenceInputContacts.surfaces) (active' : after.activeTouches = []) :
    TouchStep s { s with host := after } := by
  have once : ∀ key, (before.clientsOf key).Nodup := by
    unfold clientsOf
    rw [surfaces]
    exact clients.once
  refine sound.lifted (fun _ _ _ => Iff.rfl) (fun client => ?_) (fun client finger opened => ?_) active'
  · exact (hushed_of_eq queues surfaces).trans ((fence_presses once).1.trans (hushed_of_eq queues' surfaces'))
  · simp only [queues'] at opened ⊢
    exact sound.lifts once (hushed_of_eq queues surfaces) foreground active opened finger

theorem operated_touches (sound : s.TouchesSound) (clients : s.ClientsSound) {cancelled : Nat} {host : HostState}
    (operated : Operated cancelled s.host host) : TouchStep s { s with host := host } := by
  have idle : ∀ host : HostState, host.queues = s.host.queues → host.surfaces = s.host.surfaces →
      host.foreground = s.host.foreground → host.activeTouches = s.host.activeTouches →
      (host.preparedForeground ≠ none → s.host.preparedForeground ≠ none) → TouchStep s { s with host := host } := by
    intro host queues surfaces foreground active prepared
    refine sound.hushed (fun _ _ _ => Iff.rfl) (fun client => hushed_of_eq queues surfaces)
      (fun visible shows => ⟨visible, foreground.trans shows, rfl⟩) (fun deviceId routed => active ▸ routed) fun pending => ?_
    exact active.trans (sound.prepared (prepared pending))
  cases operated with
  | idle => exact idle _ rfl rfl rfl rfl id
  | shown lease command unlocked shows kind => exact idle _ rfl rfl rfl rfl id
  | inked foreground enabled region unlocked shows =>
    refine sound.hushed (fun _ _ _ => Iff.rfl) (fun client => hushed_of_eq rfl rfl) (fun visible shown => ?_)
      (fun _ routed => routed) sound.prepared
    rw [shows] at shown
    cases shown
    exact ⟨_, rfl, rfl⟩
  | held lock command locked kind => exact idle _ rfl rfl rfl rfl id
  | switched lease fullRefresh unlocked admits =>
    exact sound.fences clients ((s.host.sent (.setForeground lease.panelLease fullRefresh)).commitForegroundFence
      lease.key lease.generation lease.epoch) rfl rfl rfl rfl rfl rfl (fence_active _)
  | prepared lease unlocked admits =>
    exact sound.fences clients (s.host.commitForegroundFence lease.key lease.generation lease.epoch) rfl rfl rfl rfl rfl rfl
      (fence_active _)
  | activated lease inkEnabled fullRefresh unlocked prepared =>
    -- The preparation has fenced, and nothing has been routed since.
    have inactive : s.host.activeTouches = [] := sound.prepared (by simp [prepared])
    refine sound.lifted (fun _ _ _ => Iff.rfl) (fun client => hushed_of_eq rfl rfl) (fun client finger opened => ?_) inactive
    by_contra down
    obtain ⟨_, _, _, _, _, _, routed, _⟩ := sound.routed client finger opened (Bool.eq_true_of_not_eq_false down)
    rw [inactive] at routed
    cases routed
  | withdrawn unlocked => exact idle _ rfl rfl rfl rfl fun pending => absurd rfl pending
  | cleared lease unlocked shows =>
    exact sound.fences clients ({ s.host with preparedForeground := none }.sent (.clearForeground lease)) rfl rfl rfl rfl rfl
      rfl (fence_active _)
  | locked lease sleepEpoch unlocked unprepared newer admits =>
    exact sound.fences clients { (s.host.sent (.showLock lease.panelLease sleepEpoch)).commitForegroundFence lease.key
      lease.generation lease.epoch with lastSleepEpoch := sleepEpoch } rfl rfl rfl rfl rfl rfl (fence_active _)
  | finished lock locked acknowledged =>
    exact sound.fences clients s.host rfl rfl rfl rfl rfl rfl (fence_active _)

/-- A finger that is down after a routed packet is still routed. -/
theorem TouchesSound.follows (sound : s.TouchesSound) (clients : s.ClientsSound) {visible : ForegroundLease} {touch : TouchFrame}
    {active : List Int} {client : Nat} {finger : Int32} (shows : s.host.foreground = some visible)
    (down : (touchPacket touch).inputType = .touchPress → touch.deviceId ∈ active)
    (keeps : ∀ deviceId ∈ s.host.activeTouches, deviceId ∈ active ∨
      deviceId = touch.deviceId ∧ (touchPacket touch).inputType = .touchRelease)
    (opened : (s.host.queues client).closed = false)
    (held : (if client ∈ s.host.clientsOf visible.key
      then (touchPacket touch).follow finger ((s.host.queues client).presses finger)
      else (s.host.queues client).presses finger) = true) :
    ∃ key foreground, s.connections[client]? = some (.active key) ∧ s.host.foreground = some foreground ∧
      foreground.key = key ∧ ∃ deviceId ∈ active, onWire deviceId = finger := by
  -- A finger that was down before is still routed, unless the packet is its release.
  have before : (s.host.queues client).presses finger = true →
      (onWire touch.deviceId = finger → (touchPacket touch).inputType ≠ .touchRelease) →
      ∃ key foreground, s.connections[client]? = some (.active key) ∧ s.host.foreground = some foreground ∧
        foreground.key = key ∧ ∃ deviceId ∈ active, onWire deviceId = finger := by
    intro was other
    obtain ⟨key, foreground, connected, shown, same, deviceId, routed, its⟩ := sound.routed client finger opened was
    refine ⟨key, foreground, connected, shown, same, deviceId, ?_, its⟩
    rcases keeps deviceId routed with stays | ⟨rfl, release⟩
    · exact stays
    · exact absurd release (other its)
  split at held
  · rename_i member
    by_cases its : onWire touch.deviceId = finger
    · subst its
      by_cases press : (touchPacket touch).inputType = .touchPress
      · exact ⟨_, visible, clients.known visible.key client member, shows, rfl, touch.deviceId, down press, rfl⟩
      · refine before (InputPacket.follow_lifts press held) fun _ release => ?_
        cases (InputPacket.follow_release release).symm.trans held
    · exact before ((InputPacket.follow_elsewhere its).symm.trans held) fun same => absurd same its
  · rename_i absent
    obtain ⟨key, foreground, connected, shown, same, _⟩ := sound.routed client finger opened held
    rw [shows] at shown
    cases shown
    exact absurd (same ▸ sound.listens client key opened connected) absent

theorem dispatched_touches (sound : s.TouchesSound) (clients : s.ClientsSound) {host : HostState}
    (dispatches : Dispatches s.host host) : TouchStep s { s with host := host } := by
  cases dispatches with
  | hushed host hushed foreground prepared keeps still =>
    refine sound.hushed (fun _ _ _ => Iff.rfl) hushed (fun visible shows => ⟨visible, foreground.trans shows, rfl⟩) keeps ?_
    intro pending
    rw [prepared] at pending
    exact (still pending).trans (sound.prepared pending)
  | routed lease touch contact u requested unprepared surfaces queues foreground prepared down keeps =>
    have clientsOf : ∀ key, u.clientsOf key = s.host.clientsOf key := fun key => by unfold HostState.clientsOf; rw [surfaces]
    have once : ∀ key, (u.clientsOf key).Nodup := fun key => clientsOf key ▸ clients.once key
    obtain ⟨_, _, _, _, sent⟩ := sendToKey_frame u lease.key ⟨touchPacket touch, contact⟩
    obtain ⟨visible, shows, leased⟩ := Option.map_eq_some_iff.mp requested
    have mine : visible.key = lease.key := congrArg PanelLease.key leased
    refine ⟨⟨fun client finger opened held => ?_, fun client key opened active => ?_, fun pending => ?_⟩,
      fun client opened => ?_⟩
    · obtain ⟨was, _, _, follows⟩ := sendToKey_presses once opened
      simp only [follows, clientsOf, queues] at was held
      rw [← mine] at held
      rw [sent, foreground]
      exact sound.follows clients shows down keeps was held
    · obtain ⟨was, _, members, _⟩ := sendToKey_presses once opened
      refine members key ?_
      rw [clientsOf]
      exact sound.listens client key (queues ▸ was) active
    · rw [sent, prepared] at pending
      exact absurd unprepared pending
    · obtain ⟨was, received, _⟩ := sendToKey_presses once opened
      rw [received, queues]
      exact ⟨queues ▸ was, List.prefix_refl _⟩

/-! ## Connections that come and go -/

section
variable {client : Nat} {host : HostState}

theorem other_of_open {other : Nat} (opened : (({ s with host := host }.close client).host.queues other).closed = false) :
    other ≠ client := by
  rintro rfl
  simp [close, InputQueue.close] at opened

theorem hushed_close (hushed : ∀ other, other ≠ client → Hushed s.host host other) (other : Nat) :
    Hushed s.host ({ s with host := host }.close client).host other := by
  intro opened
  have others := other_of_open opened
  simp only [close, Function.update_of_ne others] at opened ⊢
  exact hushed other others opened

theorem stays_close : s.Stays ({ s with host := host }.close client) := by
  intro other key opened
  have others := other_of_open opened
  simp only [close, List.getElem?_set_ne (Ne.symm others)]

/-- A connection closes that leaves the foreground and the contacts alone. -/
theorem TouchesSound.closes (sound : s.TouchesSound) (hushed : ∀ other, other ≠ client → Hushed s.host host other)
    (foreground : host.foreground = s.host.foreground) (active : host.activeTouches = s.host.activeTouches)
    (prepared : host.preparedForeground ≠ none → s.host.preparedForeground ≠ none) :
    TouchStep s ({ s with host := host }.close client) :=
  sound.hushed stays_close (hushed_close hushed) (fun visible shows => ⟨visible, foreground.trans shows, rfl⟩)
    (fun _ routed => active ▸ routed) fun pending => active.trans (sound.prepared (prepared pending))

/-- Removing a surface costs nobody but its clients. -/
theorem removed_hushed {other : Nat} (absent : other ∉ s.host.clientsOf key) (queues : host.queues = s.host.queues)
    (surfaces : host.surfaces = Function.update s.host.surfaces key none) : Hushed s.host host other := by
  unfold Hushed
  rw [queues]
  refine fun opened => ⟨opened, rfl, fun key' member => ?_, fun _ down => down⟩
  rw [clientsOf_update surfaces, if_neg]
  · exact member
  · rintro rfl
    exact absent member

theorem aborted_touches (sound : s.TouchesSound) (key : Int) :
    TouchStep s ({ s with host := s.host.abortRegistration key }.close client) := by
  rcases abortRegistration_spec (s := s.host) key with same | ⟨entry, registered, unowned, same | same⟩
  · rw [same]
    exact sound.closes (fun _ _ => hushed_of_eq rfl rfl) rfl rfl id
  all_goals
    have nobody : ∀ other, other ∉ s.host.clientsOf key := by simp [clientsOf, registered, unowned]
    rw [same]
    exact sound.closes (fun other _ => removed_hushed (nobody other) rfl rfl) rfl rfl id

/-- Nobody but the last client listens at its surface. -/
theorem alone_of_last {entry : SurfaceEntry} (registered : s.host.surfaces key = some entry)
    (last : (entry.clients.filter fun candidate => candidate ≠ client) = []) {other : Nat} (others : other ≠ client) :
    other ∉ s.host.clientsOf key := by
  intro member
  have inside : other ∈ entry.clients.filter fun candidate => candidate ≠ client :=
    List.mem_filter.mpr ⟨by simpa [clientsOf, registered] using member, by simpa using others⟩
  rw [last] at inside
  cases inside

theorem departed_hushed (told : Bool) (alone : ∀ {other}, other ≠ client → other ∉ s.host.clientsOf key) (other : Nat)
    (others : other ≠ client) : Hushed s.host (s.host.departed key told) other := by
  cases told <;> exact removed_hushed (alone others) rfl rfl

theorem departed_once (clients : s.ClientsSound) (key : Int) (told : Bool) (key' : Int) :
    ((s.host.departed key told).clientsOf key').Nodup := by
  have surfaces : (s.host.departed key told).surfaces = Function.update s.host.surfaces key none := by
    cases told <;> rfl
  rw [clientsOf_update surfaces]
  split
  · exact List.nodup_nil
  · exact clients.once key'

theorem departed_unmoved (key : Int) (told : Bool) :
    (s.host.departed key told).foreground = s.host.foreground ∧
      (s.host.departed key told).activeTouches = s.host.activeTouches := by
  cases told <;> exact ⟨rfl, rfl⟩

theorem left_touches (sound : s.TouchesSound) (clients : s.ClientsSound) (departs : Departs s.host client key host) :
    TouchStep s ({ s with host := host }.close client) := by
  cases departs with
  | absent unregistered => exact sound.closes (fun _ _ => hushed_of_eq rfl rfl) rfl rfl id
  | shared entry kept registered others filtered =>
    refine sound.closes (fun other apart opened => ⟨opened, rfl, fun key' member => ?_, fun _ down => down⟩) rfl rfl id
    rw [clientsOf_update rfl]
    split
    · rename_i here
      subst here
      rw [Option.elim_some, filtered]
      exact List.mem_filter.mpr ⟨by simpa [clientsOf, registered] using member, by simpa using apart⟩
    · exact member
  | hidden entry told registered last stays =>
    have hushed := departed_hushed told (alone_of_last registered last)
    obtain ⟨foreground, active⟩ := departed_unmoved key told
    refine sound.closes hushed foreground active fun pending => ?_
    intro unprepared
    cases told <;> simp [HostState.departed, removeSurface, failClosed, HostState.sent, unprepared] at pending
  | stuck entry told lease registered last clears =>
    have hushed := departed_hushed told (alone_of_last registered last)
    have once := departed_once clients key told
    obtain ⟨foreground, active⟩ := departed_unmoved key told
    refine sound.lifted stays_close (hushed_close fun other others => ?_) (fun other finger opened => ?_) (fence_active _)
    · exact (hushed other others).trans ((fence_presses once).1.trans (hushed_of_eq rfl rfl))
    · have others := other_of_open opened
      simp only [close, Function.update_of_ne others] at opened ⊢
      exact sound.lifts once (hushed other others) foreground active opened finger
  | cleared entry told lease registered last clears =>
    have hushed := departed_hushed told (alone_of_last registered last)
    have once := departed_once clients key told
    obtain ⟨foreground, active⟩ := departed_unmoved key told
    have pruned := fence_pruned (s.host.departed key told)
    -- The second fence finds nothing left to lift.
    have again := fun other => @fence_presses ((s.host.departed key told).fenceInputContacts.sent (.clearForeground lease)) other
      fun key' => (Pruned.clients (s := s.host.departed key told) pruned key').nodup (once key')
    refine sound.lifted stays_close (hushed_close fun other others => ?_) (fun other finger opened => ?_) (fence_active _)
    · exact (hushed other others).trans ((fence_presses once).1.trans ((hushed_of_eq rfl rfl).trans (again other).1))
    · have others := other_of_open opened
      simp only [close, Function.update_of_ne others] at opened ⊢
      obtain ⟨opened', _, _, fewer⟩ := (again other).1 opened
      have lifted := sound.lifts once (hushed other others) foreground active opened' finger
      by_contra down
      exact absurd (fewer finger (Bool.eq_true_of_not_eq_false down)) (by simpa [HostState.sent] using lifted)

end

theorem registered_touches (sound : s.TouchesSound) {client : Nat} (shmKey next : Nat)
    (fresh : s.connections[client]? = some .fresh) (vacant : s.host.surfaces key = none) :
    TouchStep s { s with
      host := { (s.host.insertSurface key shmKey).sent (.registerSurface key shmKey) with nextShmKey := next }
      connections := s.connections.set client (.registering key) } := by
  refine sound.hushed (fun other key' _ => ?_) (fun other opened => ⟨opened, rfl, fun key' member => ?_, fun _ down => down⟩)
    (fun visible shows => ⟨visible, shows, rfl⟩) (fun _ routed => routed) sound.prepared
  · simp only [getElem?_set fresh (.registering key)]
    split
    · rename_i same
      simp [same, fresh]
    · exact Iff.rfl
  · rw [clientsOf_update rfl, if_neg]
    · exact member
    · rintro rfl
      simp [clientsOf, vacant] at member

theorem activated_touches (sound : s.TouchesSound) (clients : s.ClientsSound) {client : Nat} (entry : SurfaceEntry)
    (registering : s.connections[client]? = some (.registering key)) :
    TouchStep s { s with
      host := { s.host with
        surfaces := Function.update s.host.surfaces key (some { entry with clients := [client] }) }
      connections := s.connections.set client (.active key) } := by
  have connection := getElem?_set registering (.active key)
  refine ⟨⟨fun other finger opened down => ?_, fun other key' opened active => ?_, sound.prepared⟩,
    fun _ opened => ⟨opened, List.prefix_refl _⟩⟩
  · obtain ⟨key', foreground, active, shows, mine, routed⟩ := sound.routed other finger opened down
    refine ⟨key', foreground, ?_, shows, mine, routed⟩
    rw [connection, if_neg]
    · exact active
    · rintro rfl
      rw [registering] at active
      cases active
  · rw [connection] at active
    rw [clientsOf_update rfl]
    by_cases same : other = client
    · rw [if_pos same, Option.some.injEq, Connection.active.injEq] at active
      rw [if_pos active.symm, Option.elim_some, same]
      exact List.mem_singleton_self client
    · rw [if_neg same] at active
      rw [if_neg]
      · exact sound.listens other key' opened active
      · rintro rfl
        exact same (clients.alone other client key' (.inr active) (.inl registering))

theorem received_touches (sound : s.TouchesSound) (client : Nat) :
    TouchStep s { s with host := { s.host with
      queues := Function.update s.host.queues client (s.host.queues client).pop.2 } } := by
  have closed : ∀ other, (Function.update s.host.queues client (s.host.queues client).pop.2 other).closed =
      (s.host.queues other).closed := by
    intro other
    by_cases same : other = client
    · rw [same, Function.update_self, InputQueue.pop_closed]
    · rw [Function.update_of_ne same]
  have presses : ∀ other finger, (Function.update s.host.queues client (s.host.queues client).pop.2 other).presses finger =
      (s.host.queues other).presses finger := by
    intro other finger
    by_cases same : other = client
    · rw [same, Function.update_self, InputQueue.pop_presses]
    · rw [Function.update_of_ne same]
  refine ⟨⟨fun other finger opened down => ?_, fun other key opened active => ?_, sound.prepared⟩, fun other opened => ?_⟩
  · exact sound.routed other finger (closed other ▸ opened) (presses other finger ▸ down)
  · exact sound.listens other key (closed other ▸ opened) active
  · refine ⟨closed other ▸ opened, ?_⟩
    simp only
    by_cases same : other = client
    · rw [same, Function.update_self]
      exact InputQueue.pop_received
    · simp only [Function.update_of_ne same, List.prefix_rfl]

/-- No step leaves a client with a finger down that the host no longer routes to it. -/
theorem stepped_touches (sound : s.TouchesSound) (clients : s.ClientsSound) {event : HostEvent}
    (stepped : Stepped s event t) : TouchStep s t := by
  have still : ∀ {t : InputState}, s.Stays t → t.host.queues = s.host.queues → t.host.surfaces = s.host.surfaces →
      t.host.foreground = s.host.foreground → t.host.activeTouches = s.host.activeTouches →
      t.host.preparedForeground = s.host.preparedForeground → TouchStep s t := by
    intro t stays queues surfaces foreground active prepared
    refine sound.hushed stays (fun _ => hushed_of_eq queues surfaces)
      (fun visible shows => ⟨visible, foreground.trans shows, rfl⟩) (fun _ routed => active ▸ routed) fun pending => ?_
    exact active.trans (sound.prepared (prepared ▸ pending))
  have same : ∀ {t : InputState}, t.connections = s.connections → s.Stays t := by
    intro t connections client key _
    rw [connections]
  have dispatched : ∀ captured, TouchStep s
      { s with host := (s.host.dispatchCapturedInput s.committed captured).2 } :=
    fun captured => dispatched_touches sound clients (dispatch_touches clients.once s.committed captured)
  -- The steps are those of `Stepped`, in its order.
  cases stepped with
  | idle => exact still (same rfl) rfl rfl rfl rfl rfl
  | connected =>
    refine still (fun client key _ => ?_) rfl rfl rfl rfl rfl
    simp only
    by_cases inside : client < s.connections.length
    · rw [List.getElem?_append_left inside]
    · rw [List.getElem?_append_right (by omega), List.getElem?_eq_none (l := s.connections) (by omega)]
      cases client - s.connections.length <;> simp
  | registered client key shmKey next fresh vacant => exact registered_touches sound shmKey next fresh vacant
  | refused client next fresh => exact sound.closes (fun _ _ => hushed_of_eq rfl rfl) rfl rfl id
  | activated client key entry registering held => exact activated_touches sound clients entry registering
  | aborted client key registering => exact aborted_touches sound key
  | left client key host active departs => exact left_touches sound clients departs
  | received client => exact received_touches sound client
  | operated cancelled host operated => exact operated_touches sound clients operated
  | finished sleepEpoch => exact sound.fences clients s.host rfl rfl rfl rfl rfl rfl (fence_active _)
  | stopping commands only => exact still (same rfl) rfl rfl rfl rfl rfl
  | began frame opens up => exact still (same rfl) rfl rfl rfl rfl rfl
  | continued frame contact goesOn down => exact still (same rfl) rfl rfl rfl rfl rfl
  | dispatchedPen captured rest queue => exact (dispatched captured).like rfl rfl
  | dispatchedTouch captured rest queue => exact (dispatched captured).like rfl rfl
  | injected epoch frame => exact dispatched _
  | worked command rest commands connected committed queue taken announces => exact still (same rfl) rfl rfl rfl rfl rfl
  | flushed commands connected committed taken announces => exact still (same rfl) rfl rfl rfl rfl rfl

end InputState
end Remagic.Display
