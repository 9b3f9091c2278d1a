import Remagic.InputMachine

/-!
# Who holds a surface

At any time one connection at most has registered a surface or is active for
it, and only that one can be among the clients that its input is sent to.
-/

namespace Remagic.Display
variable {key : Int}

namespace HostState
variable {s : HostState}

def clientsOf (s : HostState) (key : Int) : List Nat := (s.surfaces key).elim [] SurfaceEntry.clients

theorem Pruned.clients {t : HostState} (pruned : Pruned s.surfaces t.surfaces) (key : Int) :
    (t.clientsOf key).Sublist (s.clientsOf key) := by
  have related := pruned key
  unfold clientsOf
  generalize s.surfaces key = before at related
  generalize t.surfaces key = after at related
  cases related with
  | none => exact List.Sublist.refl _
  | some kept => exact kept.2

theorem clientsOf_update {t : HostState} {entry : Option SurfaceEntry}
    (surfaces : t.surfaces = Function.update s.surfaces key entry) (other : Int) :
    t.clientsOf other = if other = key then entry.elim [] SurfaceEntry.clients else s.clientsOf other := by
  unfold clientsOf
  rw [surfaces]
  by_cases same : other = key
  · rw [if_pos same, same, Function.update_self]
  · rw [if_neg same, Function.update_of_ne same]

theorem clientsOf_dropped (s : HostState) (key other : Int) :
    (({ s with surfaces := Function.update s.surfaces key none } : HostState).clientsOf other).Sublist (s.clientsOf other) := by
  rw [clientsOf_update (s := s) rfl]
  split
  · exact List.nil_sublist _
  · exact List.Sublist.refl _

/-! ## Steps that only lose clients -/

theorem fence_pruned (s : HostState) : Pruned s.surfaces s.fenceInputContacts.surfaces := by
  obtain ⟨surfaces, queues, backpressure, commands, pruned, _, same⟩ := fence_frame s
  rw [same]
  exact pruned

theorem Operated.pruned {cancelled : Nat} {t : HostState} (operated : Operated cancelled s t) :
    Pruned s.surfaces t.surfaces := by
  cases operated with
  | idle => exact .refl _
  | shown lease command unlocked shows kind => exact .refl _
  | inked foreground enabled region unlocked shows => exact .refl _
  | held lock command locked kind => exact .refl _
  | switched lease fullRefresh unlocked admits =>
    exact fence_pruned ((s.sent (.setForeground lease.panelLease fullRefresh)).commitForegroundFence lease.key
      lease.generation lease.epoch)
  | prepared lease unlocked admits =>
    exact fence_pruned (s.commitForegroundFence lease.key lease.generation lease.epoch)
  | activated lease inkEnabled fullRefresh unlocked prepared => exact .refl _
  | withdrawn unlocked => exact .refl _
  | cleared lease unlocked shows =>
    exact fence_pruned ({ s with preparedForeground := none }.sent (.clearForeground lease))
  | locked lease sleepEpoch unlocked unprepared newer admits =>
    exact fence_pruned { (s.sent (.showLock lease.panelLease sleepEpoch)).commitForegroundFence lease.key
      lease.generation lease.epoch with lastSleepEpoch := sleepEpoch }
  | finished lock locked acknowledged => exact fence_pruned s

end HostState

namespace InputState
variable {s t : InputState} {client : Nat}

/-- The connection has registered the surface, whether it is active for it yet or not. -/
def Holds (s : InputState) (client : Nat) (key : Int) : Prop :=
  s.connections[client]? = some (.registering key) ∨ s.connections[client]? = some (.active key)

structure ClientsSound (s : InputState) : Prop where
  known : ∀ key, ∀ client ∈ s.host.clientsOf key, s.connections[client]? = some (.active key)
  once : ∀ key, (s.host.clientsOf key).Nodup
  held : ∀ client key, s.Holds client key → s.host.surfaces key ≠ none
  alone : ∀ client other key, s.Holds client key → s.Holds other key → client = other

theorem getElem?_set {connections : List Connection} {before : Connection} (present : connections[client]? = some before)
    (after : Connection) (other : Nat) :
    (connections.set client after)[other]? = if other = client then some after else connections[other]? := by
  by_cases same : other = client
  · subst same
    have inside : other < connections.length := (List.getElem?_eq_some_iff.mp present).1
    simp [inside]
  · rw [List.getElem?_set_ne (Ne.symm same), if_neg same]

/-- A step that takes no part in registration. -/
theorem ClientsSound.pruned (sound : s.ClientsSound) (pruned : HostState.Pruned s.host.surfaces t.host.surfaces)
    (connections : t.connections = s.connections) : t.ClientsSound := by
  have holds : ∀ client key, t.Holds client key → s.Holds client key := by
    intro client key held
    simpa only [Holds, connections] using held
  refine ⟨fun key client member => ?_, fun key => ?_, fun client key held => ?_, fun client other key left right => ?_⟩
  · rw [connections]
    exact sound.known key client ((pruned.clients key).subset member)
  · exact (pruned.clients key).nodup (sound.once key)
  · have before := Option.isSome_iff_ne_none.mpr (sound.held client key (holds client key held))
    rw [← pruned.isSome key] at before
    exact Option.isSome_iff_ne_none.mp before
  · exact sound.alone client other key (holds client key left) (holds other key right)

/-- A connection ends that was not yet, or is no longer, among the clients. -/
theorem ClientsSound.closed (sound : s.ClientsSound) {before : Connection}
    (present : s.connections[client]? = some before) (gone : ∀ key, client ∉ s.host.clientsOf key) :
    (s.close client).ClientsSound := by
  have connection : ∀ other, (s.close client).connections[other]? =
      if other = client then some .closed else s.connections[other]? := getElem?_set present .closed
  have holds : ∀ other key, (s.close client).Holds other key → s.Holds other key := by
    intro other key held
    unfold Holds at held
    rw [connection] at held
    by_cases same : other = client
    · simp [same] at held
    · simpa only [Holds, same, if_false] using held
  refine ⟨fun key other member => ?_, sound.once, fun other key held => ?_, fun one other key left right => ?_⟩
  · rw [connection, if_neg fun same : other = client => gone key (same ▸ member)]
    exact sound.known key other member
  · exact sound.held other key (holds other key held)
  · exact sound.alone one other key (holds one key left) (holds other key right)

/-- A connection ends and takes its surface along. -/
theorem ClientsSound.removed (sound : s.ClientsSound) (holder : s.Holds client key)
    (pruned : HostState.Pruned (Function.update s.host.surfaces key none) t.host.surfaces)
    (connections : t.connections = s.connections.set client .closed) : t.ClientsSound := by
  let left : InputState := { s with
    host := { s.host with surfaces := Function.update s.host.surfaces key none }
    connections := s.connections.set client .closed }
  have leaves : left.ClientsSound := by
    obtain ⟨before, present⟩ : ∃ before, s.connections[client]? = some before :=
      holder.elim (fun registering => ⟨_, registering⟩) fun active => ⟨_, active⟩
    have connection : ∀ other, left.connections[other]? =
        if other = client then some .closed else s.connections[other]? := getElem?_set present .closed
    have clients : ∀ other, left.host.clientsOf other = if other = key then [] else s.host.clientsOf other :=
      HostState.clientsOf_update (s := s.host) (t := left.host) rfl
    have holds : ∀ other key', left.Holds other key' → s.Holds other key' ∧ other ≠ client := by
      intro other key' held
      unfold Holds at held
      rw [connection] at held
      by_cases same : other = client
      · simp [same] at held
      · exact ⟨by simpa only [Holds, same, if_false] using held, same⟩
    refine ⟨fun key' other member => ?_, fun key' => ?_, fun other key' held => ?_, fun one other key' left right => ?_⟩
    · rw [clients] at member
      by_cases here : key' = key
      · simp [here] at member
      rw [if_neg here] at member
      have active := sound.known key' other member
      rw [connection, if_neg, active]
      rintro rfl
      exact here (by simpa [active] using holder.symm)
    · rw [clients]
      split
      · exact List.nodup_nil
      · exact sound.once key'
    · obtain ⟨held, elsewhere⟩ := holds other key' held
      by_cases here : key' = key
      · exact absurd (sound.alone other client key (here ▸ held) holder) elsewhere
      · simpa only [left, Function.update_of_ne here] using sound.held other key' held
    · exact sound.alone one other key' (holds one key' left).1 (holds other key' right).1
  exact leaves.pruned pruned connections

theorem registered_clientsSound (sound : s.ClientsSound) (shmKey : Nat) (fresh : s.connections[client]? = some .fresh)
    (vacant : s.host.surfaces key = none)
    (surfaces : t.host.surfaces = Function.update s.host.surfaces key (some ⟨shmKey, []⟩))
    (connections : t.connections = s.connections.set client (.registering key)) : t.ClientsSound := by
  have connection : ∀ other, t.connections[other]? =
      if other = client then some (.registering key) else s.connections[other]? := by
    rw [connections]
    exact getElem?_set fresh (.registering key)
  have clients : ∀ other, t.host.clientsOf other = if other = key then [] else s.host.clientsOf other :=
    HostState.clientsOf_update surfaces
  -- Nobody held the key before.
  have free : ∀ other, ¬ s.Holds other key := fun other held => sound.held other key held vacant
  have holds : ∀ other key', t.Holds other key' → other = client ∧ key' = key ∨ s.Holds other key' ∧ key' ≠ key := by
    intro other key' held
    unfold Holds at held
    rw [connection] at held
    by_cases same : other = client
    · left
      simpa [same, eq_comm] using held
    · right
      have before : s.Holds other key' := by simpa only [Holds, same, if_false] using held
      exact ⟨before, fun here => free other (here ▸ before)⟩
  refine ⟨fun key' other member => ?_, fun key' => ?_, fun other key' held => ?_, fun one other key' left right => ?_⟩
  · rw [clients] at member
    by_cases here : key' = key
    · simp [here] at member
    rw [if_neg here] at member
    have active := sound.known key' other member
    rw [connection, if_neg, active]
    rintro rfl
    simp [active] at fresh
  · rw [clients]
    split
    · exact List.nodup_nil
    · exact sound.once key'
  · rw [surfaces]
    rcases holds other key' held with ⟨_, rfl⟩ | ⟨held, here⟩
    · simp
    · rw [Function.update_of_ne here]
      exact sound.held other key' held
  · rcases holds one key' left with ⟨rfl, rfl⟩ | ⟨left, here⟩
    · rcases holds other key' right with ⟨rfl, _⟩ | ⟨_, there⟩
      · rfl
      · exact absurd rfl there
    · rcases holds other key' right with ⟨rfl, rfl⟩ | ⟨right, _⟩
      · exact absurd rfl here
      · exact sound.alone one other key' left right

theorem activated_clientsSound (sound : s.ClientsSound) (entry : SurfaceEntry)
    (registering : s.connections[client]? = some (.registering key))
    (surfaces : t.host.surfaces = Function.update s.host.surfaces key (some { entry with clients := [client] }))
    (connections : t.connections = s.connections.set client (.active key)) : t.ClientsSound := by
  have connection : ∀ other, t.connections[other]? =
      if other = client then some (.active key) else s.connections[other]? := by
    rw [connections]
    exact getElem?_set registering (.active key)
  have clients : ∀ other, t.host.clientsOf other = if other = key then [client] else s.host.clientsOf other :=
    HostState.clientsOf_update surfaces
  have holds : ∀ other key', t.Holds other key' → s.Holds other key' := by
    intro other key' held
    unfold Holds at held ⊢
    rw [connection] at held
    by_cases same : other = client
    · subst same
      have here : key = key' := by simpa using held
      exact .inl (here ▸ registering)
    · simpa only [same, if_false] using held
  refine ⟨fun key' other member => ?_, fun key' => ?_, fun other key' held => ?_, fun one other key' left right => ?_⟩
  · rw [clients] at member
    by_cases here : key' = key
    · rw [if_pos here, List.mem_singleton] at member
      rw [connection, if_pos member, here]
    rw [if_neg here] at member
    have active := sound.known key' other member
    rw [connection, if_neg, active]
    rintro rfl
    simp [active] at registering
  · rw [clients]
    split
    · simp
    · exact sound.once key'
  · rw [surfaces]
    by_cases here : key' = key
    · simp [here]
    · rw [Function.update_of_ne here]
      exact sound.held other key' (holds other key' held)
  · exact sound.alone one other key' (holds one key' left) (holds other key' right)

theorem left_clientsSound (sound : s.ClientsSound) {host : HostState}
    (active : s.connections[client]? = some (.active key)) (departs : HostState.Departs s.host client key host) :
    ({ s with host := host }.close client).ClientsSound := by
  have away : ∀ told, HostState.Pruned (Function.update s.host.surfaces key none) (s.host.departed key told).surfaces := by
    rintro (_ | _) <;> exact .refl _
  cases departs with
  | absent unregistered => exact absurd unregistered (sound.held client key (.inr active))
  | shared entry clients registered others kept =>
    have fewer : HostState.Pruned s.host.surfaces
        (Function.update s.host.surfaces key (some { entry with clients := clients })) := by
      intro other
      by_cases here : other = key
      · subst here
        rw [registered, Function.update_self]
        exact .some ⟨rfl, by rw [kept]; exact List.filter_sublist⟩
      · rw [Function.update_of_ne here]
        exact HostState.Pruned.refl s.host.surfaces other
    let after : InputState := { s with host := { s.host with
      surfaces := Function.update s.host.surfaces key (some { entry with clients := clients }) } }
    have kept' : after.ClientsSound := sound.pruned fewer rfl
    refine kept'.closed active fun key' member => ?_
    have known := kept'.known key' client member
    have here : key' = key := by simpa [after, active, eq_comm] using known
    subst here
    have mine : after.host.clientsOf key' = clients := by
      rw [HostState.clientsOf_update (s := s.host) (t := after.host) rfl key', if_pos rfl]
      rfl
    rw [mine, kept] at member
    simpa using (List.mem_filter.mp member).2
  | hidden entry told registered last stays => exact sound.removed (.inr active) (away told) rfl
  | stuck entry told lease registered last clears =>
    exact sound.removed (.inr active) ((away told).trans (HostState.fence_pruned (s.host.departed key told))) rfl
  | cleared entry told lease registered last clears =>
    refine sound.removed (.inr active) ((away told).trans ?_) rfl
    exact (HostState.fence_pruned (s.host.departed key told)).trans
      (HostState.fence_pruned ((s.host.departed key told).fenceInputContacts.sent (.clearForeground lease)))

/-- Whatever happens, a surface stays with one connection. -/
theorem stepped_clientsSound (sound : s.ClientsSound) {event : HostEvent} (stepped : Stepped s event t) :
    t.ClientsSound := by
  have dispatched : ∀ captured,
      HostState.Pruned s.host.surfaces (s.host.dispatchCapturedInput s.committed captured).2.surfaces := by
    intro captured
    obtain ⟨_, _, _, pruned⟩ := HostState.dispatch_frame (s := s.host) s.committed captured
    exact pruned
  -- A connection that is not active is nobody's client.
  have unknown : ∀ {client before}, s.connections[client]? = some before → (∀ key, before ≠ .active key) →
      ∀ key, client ∉ s.host.clientsOf key := by
    intro client before present inactive key member
    have active := sound.known key client member
    rw [present, Option.some.injEq] at active
    exact inactive key active
  cases stepped with
  | idle => exact sound
  | connected =>
    have connection : ∀ (client : Nat) (before : Connection), before ≠ .fresh →
        ((s.connections ++ [.fresh])[client]? = some before ↔ s.connections[client]? = some before) := by
      intro client before old
      by_cases inside : client < s.connections.length
      · rw [List.getElem?_append_left inside]
      · rw [List.getElem?_append_right (by omega), List.getElem?_eq_none (l := s.connections) (by omega)]
        cases offset : client - s.connections.length <;> simp [old.symm]
    have holds : ∀ client key, ({ s with connections := s.connections ++ [.fresh] } : InputState).Holds client key ↔
        s.Holds client key := by
      intro client key
      unfold Holds
      rw [connection client _ (by simp), connection client _ (by simp)]
    refine ⟨fun key client member => ?_, sound.once, fun client key held => ?_, fun client other key left right => ?_⟩
    · exact (connection client _ (by simp)).mpr (sound.known key client member)
    · exact sound.held client key ((holds client key).mp held)
    · exact sound.alone client other key ((holds client key).mp left) ((holds other key).mp right)
  | registered client key shmKey next fresh vacant => exact registered_clientsSound sound shmKey fresh vacant rfl rfl
  | refused client next fresh =>
    have named : ({ s with host := { s.host with nextShmKey := next } } : InputState).ClientsSound :=
      sound.pruned (.refl _) rfl
    exact named.closed fresh (unknown fresh (by simp))
  | activated client key entry registering held => exact activated_clientsSound sound entry registering rfl rfl
  | aborted client key registering =>
    rcases HostState.abortRegistration_spec (s := s.host) key with same | ⟨entry, _, _, same | same⟩
    · rw [same]
      exact sound.closed registering (unknown registering (by simp))
    · rw [same]
      exact sound.removed (.inl registering) (.refl _) rfl
    · rw [same]
      exact sound.removed (.inl registering) (.refl _) rfl
  | left client key host active departs => exact left_clientsSound sound active departs
  | received client => exact sound.pruned (.refl _) rfl
  | operated cancelled host operated => exact sound.pruned operated.pruned rfl
  | finished sleepEpoch => exact sound.pruned (HostState.fence_pruned s.host) rfl
  | stopping commands only => exact sound.pruned (.refl _) rfl
  | began frame opens up => exact sound.pruned (.refl _) rfl
  | continued frame contact goesOn down => exact sound.pruned (.refl _) rfl
  | dispatchedPen captured rest queue => exact sound.pruned (dispatched captured) rfl
  | dispatchedTouch captured rest queue => exact sound.pruned (dispatched captured) rfl
  | injected epoch frame => exact sound.pruned (dispatched _) rfl
  | worked command rest commands connected committed queue taken announces => exact sound.pruned (.refl _) rfl
  | flushed commands connected committed taken announces => exact sound.pruned (.refl _) rfl

end InputState
end Remagic.Display
