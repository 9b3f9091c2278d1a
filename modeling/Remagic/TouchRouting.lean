import Remagic.InputLogs

/-!
# The fingers that a client takes to be down

A client that follows presses and releases takes a finger to be down from its
press to its release. Only the press of a routed contact puts one down, and a
fence lifts all the fingers that the foreground's clients take to be down.
-/

namespace Remagic.Display

/-- The finger's number as the packet carries it. -/
def onWire (deviceId : Int) : Int32 := Int32.ofInt deviceId

/-- Whether the finger is down after the packet. -/
def InputPacket.follow (packet : InputPacket) (finger : Int32) (down : Bool) : Bool :=
  if onWire packet.deviceId ≠ finger then down
  else
    match packet.inputType with
    | .touchPress => true
    | .touchRelease => false
    | _ => down

variable {packet : InputPacket}

theorem InputPacket.follow_other (press : packet.inputType ≠ .touchPress) (release : packet.inputType ≠ .touchRelease)
    (finger : Int32) (down : Bool) : packet.follow finger down = down := by
  unfold follow
  split
  · rfl
  · cases kind : packet.inputType <;> simp [kind] at press release ⊢

theorem InputPacket.follow_elsewhere {finger : Int32} {down : Bool} (other : onWire packet.deviceId ≠ finger) :
    packet.follow finger down = down := by
  simp [follow, other]

theorem InputPacket.follow_release {down : Bool} (release : packet.inputType = .touchRelease) :
    packet.follow (onWire packet.deviceId) down = false := by
  simp [follow, release]

/-- Nothing but a press puts a finger down. -/
theorem InputPacket.follow_lifts (press : packet.inputType ≠ .touchPress) {finger : Int32} {down : Bool}
    (after : packet.follow finger down = true) : down = true := by
  unfold follow at after
  split at after
  · exact after
  · cases kind : packet.inputType <;> simp [kind] at press after <;> exact after

/-- Whether the finger is down for who has heard these packets. -/
def presses (finger : Int32) (heard : List Delivery) : Bool :=
  heard.foldl (fun down delivery => delivery.packet.follow finger down) false

theorem presses_append (finger : Int32) (heard : List Delivery) (delivery : Delivery) :
    presses finger (heard ++ [delivery]) = delivery.packet.follow finger (presses finger heard) := by
  simp [presses]

namespace InputQueue
variable {q : InputQueue}

def presses (q : InputQueue) (finger : Int32) : Bool := Display.presses finger (q.received ++ q.packets)

/-- A move makes no difference. -/
theorem presses_evicted {evicted : Delivery} (moves : coalescible evicted = true) (finger : Int32)
    (before after : List Delivery) :
    Display.presses finger (before ++ evicted :: after) = Display.presses finger (before ++ after) := by
  have still : ∀ down, evicted.packet.follow finger down = down := by
    unfold coalescible isInputBoundary at moves
    apply InputPacket.follow_other <;> intro kind <;> simp [kind] at moves
  unfold Display.presses
  rw [List.foldl_append, List.foldl_cons, still, List.foldl_append]

/-- A queue that is open after a push was open before, and has taken the packet. -/
theorem push_presses {delivery : Delivery} (opened : (q.push delivery).2.closed = false) :
    q.closed = false ∧ (q.push delivery).1.delivered = true ∧ (q.push delivery).2.received = q.received ∧
      ∀ finger, (q.push delivery).2.presses finger = delivery.packet.follow finger (q.presses finger) := by
  unfold push at opened ⊢
  by_cases closed : q.closed = true
  · simp [closed] at opened
  simp only [closed, Bool.false_eq_true, if_false] at opened ⊢
  refine ⟨by simp, ?_⟩
  unfold presses
  by_cases full : q.packets.length ≥ q.capacity
  · simp only [full, dite_true] at opened ⊢
    by_cases found : q.packets.any coalescible = true
    · simp only [found, dite_true]
      refine ⟨rfl, trivial, fun finger => ?_⟩
      obtain ⟨old, member, moves⟩ := List.any_eq_true.mp found
      obtain ⟨evicted, before, after, _, evictable, whole, erased⟩ := List.exists_of_eraseP member moves
      rw [erased, whole, ← List.append_assoc, presses_append, ← List.append_assoc, ← List.append_assoc,
        presses_evicted evictable]
    · simp [found] at opened
  · simp only [full, dite_false]
    refine ⟨rfl, trivial, fun finger => ?_⟩
    rw [← List.append_assoc, presses_append]

theorem pop_presses (finger : Int32) : q.pop.2.presses finger = q.presses finger := by
  unfold pop
  split
  · rfl
  · rename_i first rest packets
    simp [presses, packets]

theorem pop_closed : q.pop.2.closed = q.closed := by
  unfold pop
  split <;> rfl

theorem pop_received : q.received <+: q.pop.2.received := by
  unfold pop
  split
  · exact List.prefix_refl _
  · exact List.prefix_append q.received _

end InputQueue

namespace HostState
variable {s t : HostState} {client : Nat}

/-! ## One packet -/

/-- Who takes the packet stays a client. -/
theorem pushTo_keeps (delivery : Delivery) {clients : List Nat} (once : clients.Nodup) (s : HostState)
    (member : client ∈ clients) (took : ((s.queues client).push delivery).1.delivered = true) :
    client ∈ (pushTo delivery clients s).2.1 := by
  induction clients generalizing s with
  | nil => cases member
  | cons first rest ih =>
    obtain ⟨absent, once⟩ := List.nodup_cons.mp once
    unfold pushTo
    rcases List.mem_cons.mp member with rfl | later
    · simp [took]
    · have other : client ≠ first := fun same => absent (same ▸ later)
      simp only
      split
      · exact List.mem_cons_of_mem _ (ih once _ later (by simpa [Function.update_of_ne other] using took))
      · exact ih once _ later (by simpa [Function.update_of_ne other] using took)

/-- A client whose queue is open has taken every packet that its surface was sent. -/
theorem sendToKey_presses (once : ∀ key, (s.clientsOf key).Nodup) {key : Int} {delivery : Delivery}
    (opened : ((s.sendToKey key delivery).2.queues client).closed = false) :
    (s.queues client).closed = false ∧
    ((s.sendToKey key delivery).2.queues client).received = (s.queues client).received ∧
    (∀ other, client ∈ s.clientsOf other → client ∈ (s.sendToKey key delivery).2.clientsOf other) ∧
    ∀ finger, ((s.sendToKey key delivery).2.queues client).presses finger =
      if client ∈ s.clientsOf key then delivery.packet.follow finger ((s.queues client).presses finger)
      else (s.queues client).presses finger := by
  have once := once key
  unfold sendToKey at opened ⊢
  cases registered : s.surfaces key with
  | none =>
    simp only [registered] at opened ⊢
    exact ⟨opened, trivial, fun _ member => member, fun _ => by simp [clientsOf, registered]⟩
  | some entry =>
    have mine : s.clientsOf key = entry.clients := by simp [clientsOf, registered]
    rw [mine] at once ⊢
    simp only [registered] at opened ⊢
    obtain ⟨others, inside⟩ := pushTo_queues delivery once s client
    have keeps := @pushTo_keeps client delivery _ once s
    obtain ⟨_, _, _, same⟩ := pushTo_frame delivery entry.clients s
    generalize pushTo delivery entry.clients s = outcome at opened others inside keeps same
    obtain ⟨delivered, kept, t⟩ := outcome
    simp only at opened others inside keeps same ⊢
    have surfaces : t.surfaces = s.surfaces := by rw [same]
    have clients := clientsOf_update (s := s)
      (t := { t with surfaces := Function.update t.surfaces key (some { entry with clients := kept }) })
      (by rw [surfaces])
    by_cases member : client ∈ entry.clients
    · obtain ⟨queue, _⟩ := inside member
      rw [queue] at opened ⊢
      obtain ⟨was, took, received, follows⟩ := (s.queues client).push_presses opened
      refine ⟨was, received, fun other held => ?_, fun finger => by rw [follows, if_pos member]⟩
      rw [clients]
      split
      · exact keeps member took
      · exact held
    · rw [others member] at opened ⊢
      refine ⟨opened, rfl, fun other held => ?_, fun finger => by rw [if_neg member]⟩
      rw [clients]
      split
      · rename_i here
        rw [here, mine] at held
        exact absurd held member
      · exact held

/-- In between, a client whose queue is still open was sent no press and stayed where it was. -/
def Hushed (s t : HostState) (client : Nat) : Prop :=
  (t.queues client).closed = false →
    (s.queues client).closed = false ∧ (t.queues client).received = (s.queues client).received ∧
    (∀ key, client ∈ s.clientsOf key → client ∈ t.clientsOf key) ∧
    ∀ finger, (t.queues client).presses finger = true → (s.queues client).presses finger = true

theorem Hushed.trans {u : HostState} (first : Hushed s t client) (second : Hushed t u client) : Hushed s u client := by
  intro opened
  obtain ⟨opened, received', stays', fewer'⟩ := second opened
  obtain ⟨opened, received, stays, fewer⟩ := first opened
  exact ⟨opened, received'.trans received, fun key member => stays' key (stays key member),
    fun finger down => fewer finger (fewer' finger down)⟩

theorem hushed_of_eq (queues : t.queues = s.queues) (surfaces : t.surfaces = s.surfaces) : Hushed s t client := by
  unfold Hushed clientsOf
  rw [queues, surfaces]
  exact fun opened => ⟨opened, rfl, fun _ member => member, fun _ down => down⟩

theorem sendToKey_hushed (once : ∀ key, (s.clientsOf key).Nodup) (key : Int) {delivery : Delivery}
    (quiet : delivery.packet.inputType ≠ .touchPress) : Hushed s (s.sendToKey key delivery).2 client := by
  intro opened
  obtain ⟨was, received, stays, follows⟩ := sendToKey_presses once opened
  refine ⟨was, received, stays, fun _ down => ?_⟩
  rw [follows] at down
  split at down
  · exact InputPacket.follow_lifts quiet down
  · exact down

theorem penPacket_quiet (frame : PenFrame) : (penPacket frame).inputType ≠ .touchPress := by
  unfold penPacket
  cases frame.phase <;> simp

theorem offerPanel_hushed (command : PanelCommand) : Hushed s (s.offerPanel command) client := by
  rcases offerPanel_spec (s := s) command with refused | accepted
  · rw [refused]
    exact hushed_of_eq rfl rfl
  · rw [accepted]
    exact hushed_of_eq rfl rfl

/-! ## A fence -/

theorem releases_presses (once : ∀ key, (s.clientsOf key).Nodup) (key : Int) (devices : List Int) :
    Hushed s (devices.foldl (releaseTouch key) s) client ∧
    (((devices.foldl (releaseTouch key) s).queues client).closed = false → client ∈ s.clientsOf key →
      ∀ deviceId ∈ devices, ((devices.foldl (releaseTouch key) s).queues client).presses (onWire deviceId) = false) := by
  induction devices generalizing s with
  | nil => exact ⟨hushed_of_eq rfl rfl, fun _ _ => nofun⟩
  | cons first rest ih =>
    rw [List.foldl_cons]
    have once' : ∀ other, ((releaseTouch key s first).clientsOf other).Nodup := (sendToKey_once once key _).1
    obtain ⟨later, lifted⟩ := ih once'
    have sent : Hushed s (releaseTouch key s first) client := sendToKey_hushed once key (by simp [touchReleasePacket])
    refine ⟨sent.trans later, fun opened member deviceId among => ?_⟩
    obtain ⟨opened', _, _, fewer⟩ := later opened
    obtain ⟨_, _, stays, follows⟩ := sendToKey_presses once opened'
    rcases List.mem_cons.mp among with rfl | among
    · -- The finger was lifted first and nothing put it down again.
      have now : ((releaseTouch key s deviceId).queues client).presses (onWire deviceId) = false := by
        unfold releaseTouch
        rw [follows, if_pos member]
        exact InputPacket.follow_release rfl
      by_contra down
      rw [fewer (onWire deviceId) (by simpa using down)] at now
      cases now
    · exact lifted opened (stays key member) deviceId among

theorem fencePen_hushed (once : ∀ key, (s.clientsOf key).Nodup) : Hushed s s.fencePen client := by
  unfold fencePen
  cases active : s.activePen with
  | none => exact hushed_of_eq rfl rfl
  | some held =>
    obtain ⟨lease, last⟩ := held
    have sent : Hushed { s with activePen := none } (sendToKey { s with activePen := none } lease.key
        ⟨penPacket last.cancelled, s.contacts .pen⟩).2 client :=
      @sendToKey_hushed { s with activePen := none } client once lease.key _ (penPacket_quiet last.cancelled)
    exact sent.trans (offerPanel_hushed (.pen lease last.cancelled))

theorem fenceTouches_presses (once : ∀ key, (s.clientsOf key).Nodup) :
    Hushed s s.fenceTouches client ∧
    ((s.fenceTouches.queues client).closed = false → ∀ foreground, s.foreground = some foreground →
      client ∈ s.clientsOf foreground.key →
      ∀ deviceId ∈ s.activeTouches, (s.fenceTouches.queues client).presses (onWire deviceId) = false) := by
  unfold fenceTouches
  cases shows : s.foreground with
  | none => exact ⟨hushed_of_eq rfl rfl, fun _ => nofun⟩
  | some foreground =>
    obtain ⟨released, lifted⟩ := @releases_presses { s with activeTouches := [] } client once foreground.key s.activeTouches
    simp only [shows] at released lifted
    refine ⟨released, fun opened shown same => ?_⟩
    cases same
    exact lifted opened

/-- A fence presses nothing and lifts every routed finger for the foreground's clients. -/
theorem fence_presses (once : ∀ key, (s.clientsOf key).Nodup) :
    Hushed s s.fenceInputContacts client ∧
    ((s.fenceInputContacts.queues client).closed = false → ∀ foreground, s.foreground = some foreground →
      client ∈ s.clientsOf foreground.key →
      ∀ deviceId ∈ s.activeTouches, (s.fenceInputContacts.queues client).presses (onWire deviceId) = false) := by
  unfold fenceInputContacts
  have pen := @fencePen_hushed { s with inputEpoch := s.inputEpoch + 1 } client once
  obtain ⟨surfaces, queues, backpressure, commands, pruned, _, same⟩ :=
    fencePen_frame { s with inputEpoch := s.inputEpoch + 1 }
  generalize fencePen { s with inputEpoch := s.inputEpoch + 1 } = t at pen same
  have once' : ∀ key, (t.clientsOf key).Nodup := by
    rw [same]
    exact fun key => (Pruned.clients (s := s) pruned key).nodup (once key)
  have shown : t.foreground = s.foreground := by rw [same]
  have touches : t.activeTouches = s.activeTouches := by rw [same]
  obtain ⟨released, lifted⟩ := @fenceTouches_presses t client once'
  refine ⟨pen.trans released, fun opened foreground shows member deviceId active => ?_⟩
  obtain ⟨opened', _⟩ := released opened
  exact lifted opened foreground (shown.trans shows) ((pen opened').2.2.1 foreground.key member) deviceId (touches ▸ active)

/-! ## A frame -/

/-- What becomes of the fingers when a frame is dispatched. -/
inductive Dispatches (s : HostState) : HostState → Prop
  | hushed (t : HostState) (hushed : ∀ client, Hushed s t client) (foreground : t.foreground = s.foreground)
      (prepared : t.preparedForeground = s.preparedForeground) (keeps : ∀ deviceId ∈ s.activeTouches, deviceId ∈ t.activeTouches)
      (still : s.preparedForeground ≠ none → t.activeTouches = s.activeTouches) : Dispatches s t
  | routed (lease : PanelLease) (touch : TouchFrame) (contact : Nat) (u : HostState) (requested : s.requested = some lease)
      (unprepared : s.preparedForeground = none) (surfaces : u.surfaces = s.surfaces) (queues : u.queues = s.queues)
      (foreground : u.foreground = s.foreground) (prepared : u.preparedForeground = s.preparedForeground)
      (down : (touchPacket touch).inputType = .touchPress → touch.deviceId ∈ u.activeTouches)
      (keeps : ∀ deviceId ∈ s.activeTouches, deviceId ∈ u.activeTouches ∨
        deviceId = touch.deviceId ∧ (touchPacket touch).inputType = .touchRelease) :
      Dispatches s (u.sendToKey lease.key ⟨touchPacket touch, contact⟩).2

theorem Dispatches.unsuppressed {touches : List Int} {pen : Bool}
    (outcome : Dispatches { s with suppressedTouches := touches, suppressedPen := pen } t) : Dispatches s t := by
  cases outcome with
  | hushed t hushed foreground prepared keeps still => exact .hushed t hushed foreground prepared keeps still
  | routed lease touch contact u requested unprepared surfaces queues foreground prepared down keeps =>
    exact .routed lease touch contact u requested unprepared surfaces queues foreground prepared down keeps

theorem trackPenContact_hushed (once : ∀ key, (s.clientsOf key).Nodup) (captured : CapturedInput) (lease : PanelLease) :
    Hushed s (s.trackPenContact captured lease).2 client := by
  unfold trackPenContact
  cases captured.frame with
  | touch touch => exact hushed_of_eq rfl rfl
  | pen pen =>
    simp only
    cases pen.phase with
    | down =>
      cases s.activePen with
      | none => exact hushed_of_eq rfl rfl
      | some previous =>
        obtain ⟨previousLease, previous⟩ := previous
        have sent := @sendToKey_hushed { s with activePen := none } client once previousLease.key
          ⟨penPacket previous.cancelled, s.contacts .pen⟩ (penPacket_quiet previous.cancelled)
        exact sent.trans (offerPanel_hushed (.pen previousLease previous.cancelled))
    | move =>
      cases s.activePen with
      | none => exact hushed_of_eq rfl rfl
      | some held =>
        obtain ⟨owner, last⟩ := held
        simp only
        split <;> exact hushed_of_eq rfl rfl
    | up => exact hushed_of_eq rfl rfl
    | cancel => exact hushed_of_eq rfl rfl

/-- The part of the dispatch that is behind the fences, for a finger. -/
theorem routeForegroundTouch_touches {captured : CapturedInput} {touch : TouchFrame} {lease : PanelLease}
    (frame : captured.frame = .touch touch) (requested : s.requested = some lease)
    (unprepared : s.preparedForeground = none) :
    (∃ u, s.routeForegroundTouch captured = (false, u) ∧ Dispatches s u) ∨
    ∃ u, s.routeForegroundTouch captured = (true, u) ∧
      Dispatches s (u.sendToKey lease.key ⟨touchPacket touch, captured.contact⟩).2 := by
  unfold routeForegroundTouch
  rw [frame]
  have ends : (touchPacket touch).inputType = .touchRelease → ∀ u, u = { s with
      activeTouches := s.activeTouches.filter fun deviceId => deviceId ≠ touch.deviceId } →
      (touch.deviceId ∉ s.activeTouches → Dispatches s u) ∧
        Dispatches s (u.sendToKey lease.key ⟨touchPacket touch, captured.contact⟩).2 := by
    rintro release u rfl
    constructor
    · intro inactive
      refine .hushed _ (fun _ => hushed_of_eq rfl rfl) rfl rfl (fun deviceId active => ?_)
        fun prepared => absurd unprepared prepared
      exact List.mem_filter.mpr ⟨active, by simpa using fun same : deviceId = touch.deviceId => inactive (same ▸ active)⟩
    · refine .routed lease touch captured.contact _ requested unprepared rfl rfl rfl rfl (fun press => by simp [release] at press)
        fun deviceId active => ?_
      by_cases same : deviceId = touch.deviceId
      · exact .inr ⟨same, release⟩
      · exact .inl (List.mem_filter.mpr ⟨active, by simpa using same⟩)
  simp only
  cases phase : touch.phase with
  | down =>
    exact .inr ⟨_, rfl, .routed lease touch captured.contact _ requested unprepared rfl rfl rfl rfl
      (fun _ => List.mem_insert_self) fun _ active => .inl (List.mem_insert_of_mem active)⟩
  | move =>
    have update : (touchPacket touch).inputType = .touchUpdate := by simp [touchPacket, phase]
    by_cases active : touch.deviceId ∈ s.activeTouches
    · refine .inr ⟨s, by simp [active], .routed lease touch captured.contact s requested unprepared rfl rfl rfl rfl ?_
        fun _ active => .inl active⟩
      rw [update]
      nofun
    · exact .inl ⟨s, by simp [active], .hushed s (fun _ => hushed_of_eq rfl rfl) rfl rfl (fun _ active => active)
        fun _ => rfl⟩
  | up | cancel =>
    obtain ⟨drops, sends⟩ := ends (by simp [touchPacket, phase]) _ rfl
    by_cases active : touch.deviceId ∈ s.activeTouches
    · exact .inr ⟨_, by simp only [List.contains_iff_mem.mpr active], sends⟩
    · exact .inl ⟨_, by simp only [List.contains_eq_mem, active, decide_false], drops active⟩

/-- The same for the pen. -/
theorem trackPenContact_touches {captured : CapturedInput} {frame : PenFrame} {lease : PanelLease}
    (once : ∀ key, (s.clientsOf key).Nodup) :
    Dispatches s (s.trackPenContact captured lease).2 ∧
      Dispatches s (((s.trackPenContact captured lease).2.offerPanel (.pen lease frame)).sendToKey lease.key
        ⟨penPacket frame, captured.contact⟩).2 := by
  have tracks := fun client => @trackPenContact_hushed s client once captured lease
  obtain ⟨surfaces, queues, backpressure, commands, active, contacts, pruned, _, same⟩ :=
    trackPenContact_frame (s := s) captured lease
  generalize (s.trackPenContact captured lease).2 = u at tracks same
  have once' : ∀ key, (u.clientsOf key).Nodup := by
    rw [same]
    exact fun key => (Pruned.clients (s := s) pruned key).nodup (once key)
  constructor
  · refine .hushed u tracks (by rw [same]) (by rw [same]) (fun _ active => ?_) fun _ => by rw [same]
    rw [same]
    exact active
  · obtain ⟨commands', told⟩ : ∃ commands, u.offerPanel (.pen lease frame) =
        { u with panel := { u.panel with commands := commands } } := by
      rcases offerPanel_spec (s := u) (.pen lease frame) with refused | accepted
      · exact ⟨u.panel.commands, refused⟩
      · exact ⟨_, accepted⟩
    have tells := fun client => @offerPanel_hushed u client (.pen lease frame)
    rw [told] at tells ⊢
    have sends := fun client => @sendToKey_hushed { u with panel := { u.panel with commands := commands' } } client once'
      lease.key ⟨penPacket frame, captured.contact⟩ (penPacket_quiet frame)
    obtain ⟨_, _, _, _, sent⟩ := sendToKey_frame { u with panel := { u.panel with commands := commands' } } lease.key
      ⟨penPacket frame, captured.contact⟩
    refine .hushed _ (fun client => (tracks client).trans ((tells client).trans (sends client))) ?_ ?_ (fun _ active => ?_)
      fun _ => ?_
    · rw [sent, same]
    · rw [sent, same]
    · rw [sent, same]
      exact active
    · rw [sent, same]

/-- A dispatched frame puts down no finger but its own, and that one is routed. -/
theorem dispatch_touches (once : ∀ key, (s.clientsOf key).Nodup) (committed : Option PanelLease)
    (captured : CapturedInput) : Dispatches s (s.dispatchCapturedInput committed captured).2 := by
  unfold dispatchCapturedInput
  by_cases stale : captured.epoch ≠ s.inputEpoch
  · simp only [stale, ne_eq, not_false_eq_true, if_true]
    exact .hushed s (fun _ => hushed_of_eq rfl rfl) rfl rfl (fun _ active => active) fun _ => rfl
  simp only [stale, if_false]
  obtain ⟨touches, pen, suppression⟩ := suppressFencedContact_frame (s := s) captured.frame
  rcases suppressed : s.suppressFencedContact captured.frame with ⟨fenced, t⟩
  rw [suppressed] at suppression
  simp only at suppression
  subst suppression
  have dropped : Dispatches s { s with suppressedTouches := touches, suppressedPen := pen } :=
    .hushed _ (fun _ => hushed_of_eq rfl rfl) rfl rfl (fun _ active => active) fun _ => rfl
  cases fenced with
  | true => exact dropped
  | false =>
    simp only
    split
    · exact dropped
    rename_i unprepared
    split
    · exact dropped
    cases committed with
    | none => exact dropped
    | some lease =>
      simp only
      split
      · exact dropped
      rename_i shown
      have unprepared : s.preparedForeground = none := by simpa using unprepared
      have requested : s.requested = some lease := not_not.mp shown
      cases frame : captured.frame with
      | touch touch =>
        rcases @routeForegroundTouch_touches { s with suppressedTouches := touches, suppressedPen := pen } captured touch
          lease frame requested unprepared with ⟨u, routed, outcome⟩ | ⟨u, routed, outcome⟩
        · rw [routed]
          exact outcome.unsuppressed
        · have tracked : u.trackPenContact captured lease = (true, u) := by simp only [trackPenContact, frame]
          simp only [routed, tracked, inputPacketFor, deliverInput_state]
          exact outcome.unsuppressed
      | pen frame' =>
        have routed : routeForegroundTouch { s with suppressedTouches := touches, suppressedPen := pen } captured =
            (true, { s with suppressedTouches := touches, suppressedPen := pen }) := by
          simp only [routeForegroundTouch, frame]
        rw [routed]
        simp only
        obtain ⟨dropped', sent⟩ := @trackPenContact_touches { s with suppressedTouches := touches, suppressedPen := pen }
          captured frame' lease once
        rcases tracked : trackPenContact { s with suppressedTouches := touches, suppressedPen := pen } captured lease with
          ⟨valid, u⟩
        rw [tracked] at dropped' sent
        cases valid with
        | false => exact dropped'.unsuppressed
        | true =>
          simp only [inputPacketFor, deliverInput_state]
          exact sent.unsuppressed

end HostState
end Remagic.Display
