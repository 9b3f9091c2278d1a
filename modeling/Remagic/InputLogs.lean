import Mathlib.Data.List.Nodup
import Remagic.InputClients

/-!
# What the clients hear

What each client has heard of each contact, and what a packet, a fence and the
dispatch of a frame add to it.
-/

namespace Remagic.Display
open Brackets
namespace HostState
variable {s : HostState}

/-- What a client hears of a contact. -/
def log (s : HostState) (client contact : Nat) : List Part := (s.queues client).log contact

/-! ## One packet -/

/-- Each client gets the packet once, and stays a client if it took it. -/
theorem pushTo_queues (delivery : Delivery) {clients : List Nat} (once : clients.Nodup) (s : HostState) (client : Nat) :
    (client ∉ clients → (pushTo delivery clients s).2.2.queues client = s.queues client) ∧
    (client ∈ clients → (pushTo delivery clients s).2.2.queues client = ((s.queues client).push delivery).2 ∧
      (client ∈ (pushTo delivery clients s).2.1 → ((s.queues client).push delivery).1.delivered = true)) := by
  induction clients generalizing s with
  | nil => simp [pushTo]
  | cons first rest ih =>
    obtain ⟨absent, once⟩ := List.nodup_cons.mp once
    unfold pushTo
    rcases pushed : (s.queues first).push delivery with ⟨push, queue⟩
    simp only
    generalize (if push = InputPush.coalesced ∨ push = InputPush.boundaryOverflow then s.inputBackpressure + 1
      else s.inputBackpressure) = n
    generalize sent : ({ s with queues := Function.update s.queues first queue, inputBackpressure := n } : HostState) = t
    have queues : t.queues = Function.update s.queues first queue := by rw [← sent]
    obtain ⟨others, inside⟩ := ih once t
    obtain ⟨fewer, _⟩ := pushTo_frame delivery rest t
    generalize pushTo delivery rest t = outcome at others inside fewer
    obtain ⟨took, kept, u⟩ := outcome
    simp only at others inside fewer ⊢
    rw [queues] at others inside
    by_cases same : client = first
    · subst same
      have own : u.queues client = queue := by rw [others absent, Function.update_self]
      have gone : client ∉ kept := fun member => absent (fewer.subset member)
      by_cases delivered : push.delivered = true
      · simp [delivered, own, pushed]
      · simp [delivered, own, pushed, gone]
    · rw [Function.update_of_ne same] at others inside
      by_cases delivered : push.delivered = true
      · simpa [delivered, same] using ⟨others, inside⟩
      · simpa [delivered, same] using ⟨others, inside⟩

theorem sendToKey_log (once : ∀ key, (s.clientsOf key).Nodup) (key : Int) (delivery : Delivery) (client contact : Nat) :
    Trimmed (s.log client contact) ((s.sendToKey key delivery).2.log client contact) ∧
      (delivery.contact = contact → client ∉ (s.sendToKey key delivery).2.clientsOf key) ∨
    delivery.contact = contact ∧ client ∈ s.clientsOf key ∧
      Heard (s.log client contact) ((s.sendToKey key delivery).2.log client contact) delivery.part := by
  have once := once key
  unfold sendToKey clientsOf at *
  cases registered : s.surfaces key with
  | none => exact .inl ⟨.refl _, fun _ => by simp [registered]⟩
  | some entry =>
    rw [registered, Option.elim_some] at once
    simp only [Option.elim_some, Function.update_self]
    obtain ⟨others, inside⟩ := pushTo_queues delivery once s client
    obtain ⟨fewer, _⟩ := pushTo_frame delivery entry.clients s
    generalize pushTo delivery entry.clients s = outcome at others inside fewer
    obtain ⟨delivered, kept, t⟩ := outcome
    simp only at others inside fewer ⊢
    unfold log
    by_cases member : client ∈ entry.clients
    · obtain ⟨queue, took⟩ := inside member
      simp only [queue]
      by_cases accepted : ((s.queues client).push delivery).1.delivered = true
      · obtain ⟨rest, thinned, later⟩ := (s.queues client).push_delivered accepted contact
        rw [later]
        by_cases same : delivery.contact = contact
        · exact .inr ⟨same, member, rest, thinned.trimmed, by rw [if_pos same]⟩
        · exact .inl ⟨by rw [if_neg same, List.append_nil]; exact thinned.trimmed, fun is => absurd is same⟩
      · left
        rw [(s.queues client).push_refused (by simpa using accepted) contact]
        exact ⟨.refl _, fun _ stays => accepted (took stays)⟩
    · left
      simp only [others member]
      exact ⟨.refl _, fun _ stays => member (fewer.subset stays)⟩

/-- Who is no client of the surface is sent nothing. -/
theorem sendToKey_others (once : ∀ key, (s.clientsOf key).Nodup) {key : Int} {delivery : Delivery} {client : Nat}
    (absent : client ∉ s.clientsOf key) : (s.sendToKey key delivery).2.queues client = s.queues client := by
  have once := once key
  unfold sendToKey clientsOf at *
  cases registered : s.surfaces key with
  | none => rfl
  | some entry =>
    rw [registered, Option.elim_some] at once absent
    exact (pushTo_queues delivery once s client).1 absent

theorem sendToKey_once (once : ∀ key, (s.clientsOf key).Nodup) (key : Int) (delivery : Delivery) :
    (∀ other, ((s.sendToKey key delivery).2.clientsOf other).Nodup) ∧
    ∀ other, ((s.sendToKey key delivery).2.clientsOf other).Sublist (s.clientsOf other) := by
  obtain ⟨surfaces, queues, backpressure, pruned, same⟩ := sendToKey_frame s key delivery
  rw [same]
  have fewer : ∀ other, (({ s with surfaces := surfaces, queues := queues, inputBackpressure := backpressure } :
      HostState).clientsOf other).Sublist (s.clientsOf other) := fun other => Pruned.clients pruned other
  exact ⟨fun other => (fewer other).nodup (once other), fewer⟩

/-! ## A fence -/

/-- The device makes a contact that input is routed for. -/
def Active (s : HostState) : Device → Prop
  | .pen => s.activePen ≠ none
  | .touch deviceId => deviceId ∈ s.activeTouches

theorem active_iff {t : HostState} (activeTouches : t.activeTouches = s.activeTouches)
    (activePen : t.activePen = s.activePen) (device : Device) : t.Active device ↔ s.Active device := by
  cases device with
  | pen => simp only [Active, activePen]
  | touch id => simp only [Active, activeTouches]

/-- A fence ended the contact that the device makes. -/
def Suppressed (s : HostState) : Device → Prop
  | .pen => s.suppressedPen = true
  | .touch deviceId => deviceId ∈ s.suppressedTouches

/-- The client has heard one release more, of a contact that was active for it. -/
def Released (s t : HostState) (key : Int) (devices : Device → Prop) (client contact : Nat) : Prop :=
  ∃ device, devices device ∧ s.contacts device = contact ∧ client ∈ s.clientsOf key ∧
    Heard (s.log client contact) (t.log client contact) .closing

theorem releases_log (key : Int) {devices : List Int} (distinct : (devices.map fun id => s.contacts (.touch id)).Nodup)
    (once : ∀ key, (s.clientsOf key).Nodup) (client contact : Nat) :
    Trimmed (s.log client contact) ((devices.foldl (releaseTouch key) s).log client contact) ∨
    s.Released (devices.foldl (releaseTouch key) s) key (fun device => ∃ id ∈ devices, device = .touch id)
      client contact := by
  induction devices generalizing s with
  | nil => exact .inl (.refl _)
  | cons id rest ih =>
    rw [List.map_cons] at distinct
    obtain ⟨apart, distinct⟩ := List.nodup_cons.mp distinct
    rw [List.foldl_cons]
    have first := sendToKey_log once key ⟨touchReleasePacket id, s.contacts (.touch id)⟩ client contact
    obtain ⟨once', fewer⟩ := sendToKey_once once key ⟨touchReleasePacket id, s.contacts (.touch id)⟩
    have contacts : (releaseTouch key s id).contacts = s.contacts := by
      unfold releaseTouch
      obtain ⟨_, _, _, _, same⟩ := sendToKey_frame s key ⟨touchReleasePacket id, s.contacts (.touch id)⟩
      rw [same]
    have rest := ih (s := releaseTouch key s id) (by rw [contacts]; exact distinct) once'
    rcases first with ⟨trimmed, _⟩ | ⟨mine, member, heard⟩
    · rcases rest with more | ⟨device, ⟨other, inside, rfl⟩, owner, member, heard⟩
      · exact .inl (trimmed.trans more)
      · refine .inr ⟨.touch other, ⟨other, List.mem_cons_of_mem _ inside, rfl⟩, contacts ▸ owner, ?_,
          heard.of_trimmed trimmed⟩
        exact (fewer key).subset member
    · right
      rcases rest with more | ⟨device, ⟨other, inside, rfl⟩, owner, _, _⟩
      · exact ⟨.touch id, ⟨id, List.mem_cons_self .., rfl⟩, mine, member, heard.trimmed more⟩
      · refine absurd (List.mem_map.mpr ⟨other, inside, ?_⟩) apart
        rw [contacts] at owner
        exact owner.trans mine.symm

theorem fencePen_log (owner : ∀ lease last, s.activePen = some (lease, last) → s.requested = some lease)
    (once : ∀ key, (s.clientsOf key).Nodup) (client contact : Nat) :
    Trimmed (s.log client contact) (s.fencePen.log client contact) ∨
    ∃ lease, s.requested = some lease ∧
      s.Released s.fencePen lease.key (fun device => device = .pen ∧ s.activePen ≠ none) client contact := by
  unfold fencePen
  cases active : s.activePen with
  | none => exact .inl (.refl _)
  | some held =>
    obtain ⟨lease, last⟩ := held
    have sent := sendToKey_log (s := { s with activePen := none }) once lease.key
      ⟨penPacket last.cancelled, s.contacts .pen⟩ client contact
    simp only
    generalize (sendToKey { s with activePen := none } lease.key ⟨penPacket last.cancelled, s.contacts .pen⟩).2 = t at sent
    have told : (t.offerPanel (.pen lease last.cancelled)).queues = t.queues := by
      rcases offerPanel_spec (s := t) (.pen lease last.cancelled) with refused | accepted
      · rw [refused]
      · rw [accepted]
        rfl
    unfold log at sent ⊢
    simp only [told]
    rcases sent with ⟨trimmed, _⟩ | ⟨mine, member, heard⟩
    · exact .inl trimmed
    · refine .inr ⟨lease, owner lease last active, .pen, ⟨rfl, by simp⟩, mine, member, ?_⟩
      exact heard

theorem fenceTouches_log {foreground : ForegroundLease} (shows : s.foreground = some foreground) (client contact : Nat) :
    s.fenceTouches.log client contact =
      (s.activeTouches.foldl (releaseTouch foreground.key) { s with activeTouches := [] }).log client contact := by
  unfold fenceTouches log
  simp only [shows]

/-- What a fence lets a client hear: at most the release of a contact that was active. -/
theorem fence_log (owner : ∀ lease last, s.activePen = some (lease, last) → s.requested = some lease)
    (alone : s.activeTouches.Nodup)
    (distinct : ∀ device other, s.Active device → s.Active other → s.contacts device = s.contacts other → device = other)
    (once : ∀ key, (s.clientsOf key).Nodup) (client contact : Nat) :
    Trimmed (s.log client contact) (s.fenceInputContacts.log client contact) ∨
    ∃ lease, s.requested = some lease ∧ s.Released s.fenceInputContacts lease.key s.Active client contact := by
  unfold fenceInputContacts
  have pen := fencePen_log (s := { s with inputEpoch := s.inputEpoch + 1 }) owner once client contact
  obtain ⟨surfaces, queues, backpressure, commands, pruned, _, same⟩ :=
    fencePen_frame { s with inputEpoch := s.inputEpoch + 1 }
  generalize fencePen { s with inputEpoch := s.inputEpoch + 1 } = t at pen same
  have contacts : t.contacts = s.contacts := by rw [same]
  have fewer : ∀ key, (t.clientsOf key).Sublist (s.clientsOf key) := by
    rw [same]
    exact fun key => Pruned.clients (s := s) pruned key
  have touches : Trimmed (t.log client contact) (t.fenceTouches.log client contact) ∨ ∃ lease, s.requested = some lease ∧
      t.Released t.fenceTouches lease.key (fun device => ∃ id ∈ s.activeTouches, device = .touch id) client contact := by
    have active : t.activeTouches = s.activeTouches := by rw [same]
    have shows : t.foreground = s.foreground := by rw [same]
    cases foreground : t.foreground with
    | none =>
      left
      unfold fenceTouches
      rw [foreground]
      exact .refl _
    | some visible =>
      have numbers : (s.activeTouches.map fun id => t.contacts (.touch id)).Nodup := by
        refine alone.map_on fun id member other inside equal => ?_
        rw [contacts] at equal
        simpa using distinct (.touch id) (.touch other) member inside equal
      have sent := releases_log (s := { t with activeTouches := [] }) visible.key numbers
        (fun key => (fewer key).nodup (once key)) client contact
      unfold Released at sent ⊢
      rw [fenceTouches_log foreground, active]
      rcases sent with trimmed | released
      · exact .inl trimmed
      · exact .inr ⟨visible.panelLease, by rw [requested, ← shows, foreground]; rfl, released⟩
  rcases pen with trimmed | ⟨lease, shows, device, ⟨rfl, active⟩, mine, member, heard⟩
  · rcases touches with more | ⟨lease, shows, device, ⟨id, inside, rfl⟩, mine, member, heard⟩
    · exact .inl (trimmed.trans more)
    · refine .inr ⟨lease, shows, .touch id, inside, contacts ▸ mine, (fewer lease.key).subset member, ?_⟩
      exact heard.of_trimmed trimmed
  · right
    rcases touches with more | ⟨_, _, device, ⟨id, inside, rfl⟩, owner, _, _⟩
    · exact ⟨lease, shows, .pen, active, mine, member, heard.trimmed more⟩
    · rw [contacts] at owner
      have equal := distinct .pen (.touch id) active inside (mine.trans owner.symm)
      cases equal

end HostState
end Remagic.Display
