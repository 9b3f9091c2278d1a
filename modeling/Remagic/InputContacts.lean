import Remagic.InputLeases
import Remagic.InputStreams

/-!
# The contacts that input is routed for

A contact that is routed belongs to the lease that is both requested and
committed, and one client hears it. A step lets a client hear of a contact only
if the contact's press was just dispatched or the contact is routed, and a fence
lets it hear no more than the release.
-/

namespace Remagic.Display
open Brackets
namespace InputState
variable {s t : InputState} {reached : Device → Option Nat} {owner : Nat → Device}

/-- The contact that input is routed for goes to one client of the visible lease. -/
structure Heeded (s : InputState) (reached : Device → Option Nat) (device : Device) (lease : PanelLease) (client : Nat) :
    Prop where
  requested : s.host.requested = some lease
  unasked : lease ∉ asked s.host.panel.commands
  reached : s.committed = some lease → reached device = some (s.host.contacts device)
  connected : s.connections[client]? = some (.active lease.key)
  open' : client ∈ s.host.clientsOf lease.key → Open (s.host.log client (s.host.contacts device))
  unheard : ∀ other ≠ client, s.host.log other (s.host.contacts device) = []

/-- What holds while input is routed for the device's contact. -/
structure Live (s : InputState) (reached : Device → Option Nat) (owner : Nat → Device) (device : Device) : Prop where
  unlocked : s.host.lock = none
  unprepared : s.host.preparedForeground = none
  unsuppressed : ¬ s.host.Suppressed device
  owned : owner (s.host.contacts device) = device
  known : s.host.contacts device < s.contacts
  current : ∀ captured ∈ s.channel device, captured.epoch = s.host.inputEpoch
  unpressed : ¬ s.Pressed (s.host.contacts device)
  heeded : ∃ lease client, s.Heeded reached device lease client

structure ContactsSound (s : InputState) (reached : Device → Option Nat) (owner : Nat → Device) : Prop where
  alone : s.host.activeTouches.Nodup
  holder : ∀ lease last, s.host.activePen = some (lease, last) → s.host.requested = some lease
  live : ∀ device, s.host.Active device → s.Live reached owner device
  heard : ∀ client contact, Partial (s.host.log client contact)
  silent : ∀ client contact, s.Pressed contact ∨ s.contacts ≤ contact → s.host.log client contact = []

/-- The contact is one that input is routed for. -/
def Routes (s : InputState) (contact : Nat) : Prop := ∃ device, s.host.Active device ∧ s.host.contacts device = contact

theorem ContactsSound.distinct (sound : s.ContactsSound reached owner) (device other : Device)
    (active : s.host.Active device) (active' : s.host.Active other)
    (same : s.host.contacts device = s.host.contacts other) : device = other := by
  rw [← (sound.live device active).owned, ← (sound.live other active').owned, same]

/-! ## Steps between contacts -/

/-- A step that neither fences nor routes. -/
structure Calm (s t : InputState) : Prop where
  activeTouches : t.host.activeTouches = s.host.activeTouches
  activePen : t.host.activePen = s.host.activePen
  suppressedTouches : t.host.suppressedTouches = s.host.suppressedTouches
  suppressedPen : t.host.suppressedPen = s.host.suppressedPen
  contacts : t.host.contacts = s.host.contacts
  inputEpoch : t.host.inputEpoch = s.host.inputEpoch
  requested : t.host.requested = s.host.requested
  lock : t.host.lock = s.host.lock
  prepared : s.host.preparedForeground = none → t.host.preparedForeground = none
  asked : s.host.preparedForeground = none → ∀ lease ∈ asked t.host.panel.commands, lease ∈ asked s.host.panel.commands
  committed : ∀ lease, t.committed = some lease → s.committed = some lease ∨ lease ∈ Display.asked s.host.panel.commands
  logs : ∀ client contact, t.host.log client contact = s.host.log client contact
  clients : s.host.lock = none → ∀ lease client, s.host.requested = some lease →
    s.connections[client]? = some (.active lease.key) →
    t.connections[client]? = some (.active lease.key) ∧
      (client ∈ t.host.clientsOf lease.key → client ∈ s.host.clientsOf lease.key)

theorem Calm.active (calm : Calm s t) : ∀ device, t.host.Active device ↔ s.host.Active device :=
  HostState.active_iff calm.activeTouches calm.activePen

theorem Calm.suppressed (calm : Calm s t) (device : Device) : t.host.Suppressed device ↔ s.host.Suppressed device := by
  cases device with
  | pen => simp only [HostState.Suppressed, calm.suppressedPen]
  | touch id => simp only [HostState.Suppressed, calm.suppressedTouches]

theorem Calm.heeded (calm : Calm s t) {device : Device} (live : s.Live reached owner device) :
    ∃ lease client, t.Heeded reached device lease client := by
  obtain ⟨lease, client, heeded⟩ := live.heeded
  obtain ⟨connected, fewer⟩ := calm.clients live.unlocked lease client heeded.requested heeded.connected
  refine ⟨lease, client, calm.requested ▸ heeded.requested, ?_, fun committed => ?_, connected, fun member => ?_,
    fun other elsewhere => ?_⟩
  · exact fun again => heeded.unasked (calm.asked live.unprepared lease again)
  · rw [calm.contacts]
    exact heeded.reached ((calm.committed lease committed).resolve_right heeded.unasked)
  · rw [calm.contacts, calm.logs]
    exact heeded.open' (fewer member)
  · rw [calm.contacts, calm.logs]
    exact heeded.unheard other elsewhere

theorem ContactsSound.calm (sound : s.ContactsSound reached owner) (calm : Calm s t) (penInput : t.penInput = s.penInput)
    (touchInput : t.touchInput = s.touchInput) (contacts : t.contacts = s.contacts) : t.ContactsSound reached owner := by
  have channel := channel_eq penInput touchInput
  refine ⟨calm.activeTouches ▸ sound.alone, fun lease last held => ?_, fun device active => ?_, fun client contact => ?_,
    fun client contact quiet => ?_⟩
  · rw [calm.requested]
    exact sound.holder lease last (calm.activePen ▸ held)
  · have live := sound.live device ((calm.active device).mp active)
    refine ⟨calm.lock.trans live.unlocked, calm.prepared live.unprepared,
      fun held => live.unsuppressed ((calm.suppressed device).mp held), ?_, ?_, fun captured member => ?_,
      fun pressed => ?_, calm.heeded live⟩
    · rw [calm.contacts]
      exact live.owned
    · rw [calm.contacts, contacts]
      exact live.known
    · rw [channel] at member
      exact (live.current captured member).trans calm.inputEpoch.symm
    · rw [calm.contacts] at pressed
      exact live.unpressed (pressed.still penInput touchInput)
  · rw [calm.logs]
    exact sound.heard client contact
  · rw [calm.logs]
    refine sound.silent client contact ?_
    rw [contacts] at quiet
    exact quiet.imp (fun pressed => pressed.still penInput touchInput) id

/-! ## Fences -/

end InputState

/-- `t` comes after a fence of `s`: no contact is routed, and each client has heard at
    most the release of one that was. -/
structure HostState.Fenced (s t : HostState) : Prop where
  activeTouches : t.activeTouches = []
  activePen : t.activePen = none
  inputEpoch : s.inputEpoch < t.inputEpoch
  logs : ∀ client contact, Trimmed (s.log client contact) (t.log client contact) ∨
    ∃ lease, s.requested = some lease ∧ s.Released t lease.key s.Active client contact

namespace InputState
variable {s t : InputState} {reached : Device → Option Nat} {owner : Nat → Device}

/-- A client that a fence lets hear a release has heard the contact before. -/
theorem ContactsSound.closes (sound : s.ContactsSound reached owner) (clients : s.ClientsSound) {lease : PanelLease}
    (requested : s.host.requested = some lease) {host : HostState} {client contact : Nat}
    (released : s.host.Released host lease.key s.host.Active client contact) :
    Closed (host.log client contact) ∧ ¬ s.Pressed contact ∧ contact < s.contacts := by
  obtain ⟨device, active, rfl, member, heard⟩ := released
  have live := sound.live device active
  obtain ⟨lease', listener, heeded⟩ := live.heeded
  have same : lease' = lease := Option.some.inj (heeded.requested.symm.trans requested)
  subst same
  have mine : client = listener :=
    clients.alone client listener lease'.key (.inr (clients.known lease'.key client member)) (.inr heeded.connected)
  subst mine
  exact ⟨heard.closes (heeded.open' member), live.unpressed, live.known⟩

theorem ContactsSound.fenced (sound : s.ContactsSound reached owner) (clients : s.ClientsSound)
    (fenced : s.host.Fenced t.host) (penInput : t.penInput = s.penInput) (touchInput : t.touchInput = s.touchInput)
    (contacts : t.contacts = s.contacts) : t.ContactsSound reached owner := by
  refine ⟨?_, fun lease last held => ?_, fun device active => ?_, fun client contact => ?_, fun client contact quiet => ?_⟩
  · rw [fenced.activeTouches]
    exact List.nodup_nil
  · rw [fenced.activePen] at held
    cases held
  · cases device with
    | pen => exact absurd fenced.activePen active
    | touch id => simp [HostState.Active, fenced.activeTouches] at active
  · rcases fenced.logs client contact with trimmed | ⟨lease, requested, released⟩
    · exact (sound.heard client contact).trimmed trimmed
    · exact (sound.closes clients requested released).1.isPartial
  · rw [contacts] at quiet
    have quiet := quiet.imp (fun pressed : t.Pressed contact => pressed.still penInput touchInput) id
    rcases fenced.logs client contact with trimmed | ⟨lease, requested, released⟩
    · rw [sound.silent client contact quiet] at trimmed
      exact trimmed.eq_nil
    · obtain ⟨_, unpressed, known⟩ := sound.closes clients requested released
      rcases quiet with pressed | new
      · exact absurd pressed unpressed
      · omega

/-- Without contacts there is nothing that the foreground's change could take away. -/
theorem ContactsSound.still (sound : s.ContactsSound reached owner) (inactive : ∀ device, ¬ s.host.Active device)
    (activeTouches : t.host.activeTouches = s.host.activeTouches) (activePen : t.host.activePen = s.host.activePen)
    (queues : t.host.queues = s.host.queues) (penInput : t.penInput = s.penInput)
    (touchInput : t.touchInput = s.touchInput) (contacts : t.contacts = s.contacts) : t.ContactsSound reached owner := by
  have logs : ∀ client contact, t.host.log client contact = s.host.log client contact := by
    intro client contact
    unfold HostState.log
    rw [queues]
  refine ⟨activeTouches ▸ sound.alone, fun lease last held => ?_, fun device active => ?_, fun client contact => ?_,
    fun client contact quiet => ?_⟩
  · exact absurd (show s.host.activePen ≠ none by rw [← activePen, held]; simp) (inactive .pen)
  · exact absurd ((HostState.active_iff activeTouches activePen device).mp active) (inactive device)
  · rw [logs]
    exact sound.heard client contact
  · rw [logs]
    refine sound.silent client contact ?_
    rw [contacts] at quiet
    exact quiet.imp (fun pressed => pressed.still penInput touchInput) id

/-- A fence of a state with the same contacts fences the state, whatever else changes. -/
theorem ContactsSound.fences (sound : s.ContactsSound reached owner) (clients : s.ClientsSound) (before : HostState) {after : HostState}
    (activeTouches : before.activeTouches = s.host.activeTouches) (activePen : before.activePen = s.host.activePen)
    (contacts : before.contacts = s.host.contacts) (requested : before.requested = s.host.requested)
    (epoch : before.inputEpoch = s.host.inputEpoch) (queues : before.queues = s.host.queues)
    (fewer : ∀ key, (before.clientsOf key).Sublist (s.host.clientsOf key))
    (touches : after.activeTouches = before.fenceInputContacts.activeTouches)
    (pen : after.activePen = before.fenceInputContacts.activePen)
    (newer : after.inputEpoch = before.fenceInputContacts.inputEpoch)
    (heard : after.queues = before.fenceInputContacts.queues) : s.host.Fenced after := by
  have active := HostState.active_iff activeTouches activePen
  have logs : ∀ client contact, before.log client contact = s.host.log client contact := by
    intro client contact
    unfold HostState.log
    rw [queues]
  have later : ∀ client contact, after.log client contact = before.fenceInputContacts.log client contact := by
    intro client contact
    unfold HostState.log
    rw [heard]
  obtain ⟨surfaces, queues', backpressure, commands, _, _, same⟩ := HostState.fence_frame before
  refine ⟨by rw [touches, same]; rfl, by rw [pen, same]; rfl, ?_, fun client contact => ?_⟩
  · rw [newer, same, ← epoch]
    exact Nat.lt_succ_self _
  have fence := HostState.fence_log (s := before)
    (fun lease last held => requested ▸ sound.holder lease last (activePen ▸ held)) (activeTouches ▸ sound.alone)
    (fun device other left right equal => sound.distinct device other ((active device).mp left) ((active other).mp right)
      (contacts ▸ equal))
    (fun key => (fewer key).nodup (clients.once key)) client contact
  rw [logs] at fence
  rw [later]
  rcases fence with trimmed | ⟨lease, shows, device, routed, number, member, heard⟩
  · exact .inl trimmed
  · refine .inr ⟨lease, requested ▸ shows, device, (active device).mp routed, contacts ▸ number,
      (fewer lease.key).subset member, ?_⟩
    rw [later, ← logs]
    exact heard

/-- A second fence finds nothing to release. -/
theorem fenced_again {u after : HostState} (fenced : s.host.Fenced u) (once : ∀ key, (u.clientsOf key).Nodup)
    (touches : after.activeTouches = u.fenceInputContacts.activeTouches)
    (pen : after.activePen = u.fenceInputContacts.activePen)
    (newer : after.inputEpoch = u.fenceInputContacts.inputEpoch)
    (heard : after.queues = u.fenceInputContacts.queues) : s.host.Fenced after := by
  have inactive : ∀ device, ¬ u.Active device := by
    rintro (_ | id) active
    · exact active fenced.activePen
    · simp [HostState.Active, fenced.activeTouches] at active
  have later : ∀ client contact, after.log client contact = u.fenceInputContacts.log client contact := by
    intro client contact
    unfold HostState.log
    rw [heard]
  obtain ⟨surfaces, queues', backpressure, commands, _, _, same⟩ := HostState.fence_frame u
  refine ⟨by rw [touches, same]; rfl, by rw [pen, same]; rfl, ?_, fun client contact => ?_⟩
  · rw [newer, same]
    exact fenced.inputEpoch.trans (Nat.lt_succ_self _)
  have more : Trimmed (u.log client contact) (after.log client contact) := by
    rw [later]
    rcases HostState.fence_log (s := u) (fun lease last held => by simp [fenced.activePen] at held)
      (fenced.activeTouches ▸ List.nodup_nil) (fun device other active => absurd active (inactive device)) once client
      contact with trimmed | ⟨_, _, device, active, _⟩
    · exact trimmed
    · exact absurd active (inactive device)
  rcases fenced.logs client contact with trimmed | ⟨lease, shows, device, active, number, member, released⟩
  · exact .inl (trimmed.trans more)
  · exact .inr ⟨lease, shows, device, active, number, member, released.trimmed more⟩

end InputState
end Remagic.Display
