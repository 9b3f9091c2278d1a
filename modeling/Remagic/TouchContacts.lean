import Remagic.TouchDecoder

/-!
# The contacts of the touch panel

The frames of one contact identifier are a press, moves and a release, and again. A
report that gives a slot another contact before it releases the one it had, or that gives
a contact to a slot while a later slot has yet to release it, breaks this.
-/

namespace Remagic.Display

/-! ## Shapes -/

/-- The contact is down after the frame. -/
def TouchPhase.leavesDown : TouchPhase → Bool
  | .down | .move => true
  | .up | .cancel => false

/-- Presses, moves and releases in order, from a contact that is down or is not. -/
def Shaped : Bool → List TouchPhase → Prop
  | _, [] => True
  | down, phase :: rest => (phase = .down ↔ down = false) ∧ Shaped phase.leavesDown rest

instance Shaped.decide : ∀ (down : Bool) (phases : List TouchPhase), Decidable (Shaped down phases)
  | _, [] => isTrue trivial
  | down, phase :: rest =>
    have := Shaped.decide phase.leavesDown rest
    inferInstanceAs (Decidable ((phase = .down ↔ down = false) ∧ Shaped phase.leavesDown rest))

/-- Whether the contact is down after the frames. -/
def downAfter : Bool → List TouchPhase → Bool
  | down, [] => down
  | _, phase :: rest => downAfter phase.leavesDown rest

theorem shaped_append {down : Bool} {phases more : List TouchPhase} :
    Shaped down (phases ++ more) ↔ Shaped down phases ∧ Shaped (downAfter down phases) more := by
  induction phases generalizing down with
  | nil => simp [Shaped, downAfter]
  | cons phase rest ih => simp [Shaped, downAfter, ih, and_assoc]

theorem downAfter_append {down : Bool} {phases more : List TouchPhase} :
    downAfter down (phases ++ more) = downAfter (downAfter down phases) more := by
  induction phases generalizing down with
  | nil => rfl
  | cons phase rest ih => exact ih

/-- The phases of the frames of one contact identifier. -/
def phasesOf (id : Int) (frames : List TouchFrame) : List TouchPhase :=
  (frames.filter fun frame => frame.deviceId = id).map TouchFrame.phase

theorem phasesOf_append (id : Int) (frames more : List TouchFrame) :
    phasesOf id (frames ++ more) = phasesOf id frames ++ phasesOf id more := by
  simp [phasesOf]

/-! ## The device -/

/-- What the device says of its slots: the one it speaks of, and the contact of each, if it
    is not negative. -/
structure TouchDevice where
  slot : Int := 0
  contacts : Int → Int := fun _ => -1

variable {device : TouchDevice}

namespace TouchDevice

def next (device : TouchDevice) (event : RawEvent) : TouchDevice :=
  match event.reading with
  | .slot slot => { device with slot }
  | .trackingId id => { device with contacts := Function.update device.contacts device.slot id }
  | _ => device

/-- Slots that are active at once have contacts of their own. -/
def Distinct (device : TouchDevice) : Prop :=
  ∀ slot other, slot ≠ other → 0 ≤ device.contacts slot → device.contacts slot ≠ device.contacts other

/-- One slot alone is active. -/
theorem distinct_of_single (single : ∀ slot, slot ≠ 0 → device.contacts slot < 0) : device.Distinct := by
  intro slot other apart valid same
  by_cases first : slot = 0
  · have negative := single other (by omega)
    omega
  · have negative := single slot first
    omega

end TouchDevice

/-! ## Runs -/

/-- The decoder beside its device, and the frames that it has made. -/
structure Decoding where
  device : TouchDevice := {}
  decoder : TouchDecoder
  frames : List TouchFrame := []

namespace Decoding

def start (logicalWidth logicalHeight : Int) (xRange yRange : AxisRange) (slotCount : Nat) : Decoding where
  decoder := .new logicalWidth logicalHeight xRange yRange slotCount

def next (r : Decoding) (event : RawEvent) : Decoding where
  device := r.device.next event
  decoder := (r.decoder.consume event).2
  frames := r.frames ++ (r.decoder.consume event).1.map DecodedTouch.frame

/-- The frames of each contact identifier are presses, moves and releases in order. -/
def Complete (r : Decoding) : Prop := ∀ id, Shaped false (phasesOf id r.frames)

end Decoding

/-- A report finds each slot with the contact it had, or with none; and no slot takes up a
    contact that a later slot had at the report before. -/
structure Tidy (slots : List TouchSlot) : Prop where
  same : ∀ slot ∈ slots, 0 ≤ slot.reportedId → 0 ≤ slot.trackingId → slot.trackingId = slot.reportedId
  released : slots.Pairwise fun slot later => slot.reportedId < 0 → 0 ≤ slot.trackingId → later.reportedId ≠ slot.trackingId

instance (slots : List TouchSlot) : Decidable (Tidy slots) :=
  decidable_of_iff ((∀ slot ∈ slots, 0 ≤ slot.reportedId → 0 ≤ slot.trackingId → slot.trackingId = slot.reportedId) ∧
    slots.Pairwise fun slot later => slot.reportedId < 0 → 0 ≤ slot.trackingId → later.reportedId ≠ slot.trackingId)
    ⟨fun holds => ⟨holds.1, holds.2⟩, fun tidy => ⟨tidy.same, tidy.released⟩⟩

/-- The report meets the decoder tidy. -/
def TidyReport (r : Decoding) (event : RawEvent) : Prop := event.reading = .report → Tidy r.decoder.slots

instance (r : Decoding) (event : RawEvent) : Decidable (TidyReport r event) := inferInstanceAs (Decidable (_ → _))

/-! ## Frames of one contact -/

/-- One frame more: it follows on what its contact has, and the other contacts have none of it. -/
theorem phasesOf_one (id : Int) (frames : List TouchFrame) (frame : TouchFrame) :
    phasesOf id (frames ++ [frame]) = if frame.deviceId = id then phasesOf id frames ++ [frame.phase] else phasesOf id frames := by
  rw [phasesOf_append]
  by_cases same : frame.deviceId = id <;> simp [phasesOf, same]

/-- Contacts of their own. -/
def Apart (ids : List Int) : Prop := ids.Pairwise fun id other => 0 ≤ id → other ≠ id

theorem apart_symm {id other : Int} (apart : 0 ≤ id → other ≠ id) : 0 ≤ other → id ≠ other := by
  intro valid same
  subst same
  exact apart valid rfl

/-- The contacts that are down are those that slots have reported, each one once. -/
structure Accounted (reported : List Int) (frames : List TouchFrame) : Prop where
  shaped : ∀ id, Shaped false (phasesOf id frames)
  down : ∀ id, downAfter false (phasesOf id frames) = true ↔ 0 ≤ id ∧ id ∈ reported
  apart : Apart reported

variable {frames : List TouchFrame}

/-- A slot presses, moves or releases its contact, which no other slot has. -/
theorem Accounted.says {before after : List Int} {was now : Int} (accounted : Accounted (before ++ was :: after) frames)
    (frame : TouchFrame) (valid : 0 ≤ frame.deviceId) (own : was < 0 ∨ was = frame.deviceId)
    (alone : frame.deviceId ∉ before ++ after) (presses : frame.phase = .down ↔ was ≠ frame.deviceId)
    (leaves : if frame.phase.leavesDown then now = frame.deviceId else now < 0) :
    Accounted (before ++ now :: after) (frames ++ [frame]) := by
  have held : downAfter false (phasesOf frame.deviceId frames) = true ↔ was = frame.deviceId := by
    rw [accounted.down]
    constructor
    · rintro ⟨-, member⟩
      rcases List.mem_append.mp member with first | rest
      · exact absurd (List.mem_append_left _ first) alone
      · rcases List.mem_cons.mp rest with same | later
        · exact same.symm
        · exact absurd (List.mem_append_right _ later) alone
    · rintro rfl
      exact ⟨valid, List.mem_append_right _ (List.mem_cons_self ..)⟩
  have others := (List.pairwise_cons.mp ((List.pairwise_middle apart_symm).mp accounted.apart)).2
  refine ⟨fun id => ?_, fun id => ?_, ?_⟩
  · rw [phasesOf_one]
    by_cases same : frame.deviceId = id
    · subst same
      rw [if_pos rfl]
      refine shaped_append.mpr ⟨accounted.shaped _, ?_, trivial⟩
      rw [presses, ← Bool.not_eq_true, held]
    · rw [if_neg same]
      exact accounted.shaped id
  · rw [phasesOf_one]
    by_cases same : frame.deviceId = id
    · subst same
      rw [if_pos rfl, downAfter_append]
      show frame.phase.leavesDown = true ↔ _
      by_cases down : frame.phase.leavesDown = true
      · rw [if_pos down] at leaves
        subst leaves
        simp [down, valid]
      · rw [if_neg down] at leaves
        have apart : frame.deviceId ≠ now := by omega
        constructor
        · intro up
          exact absurd up down
        · rintro ⟨-, member⟩
          rcases List.mem_append.mp member with first | rest
          · exact absurd (List.mem_append_left _ first) alone
          · rcases List.mem_cons.mp rest with same | later
            · exact absurd same apart
            · exact absurd (List.mem_append_right _ later) alone
    · rw [if_neg same, accounted.down]
      have there : 0 ≤ id → (id ∈ before ++ was :: after ↔ id ∈ before ++ now :: after) := by
        intro positive
        have old : id ≠ was := by omega
        have new : id ≠ now := by
          split at leaves <;> omega
        simp [old, new]
      constructor
      · rintro ⟨positive, member⟩
        exact ⟨positive, (there positive).mp member⟩
      · rintro ⟨positive, member⟩
        exact ⟨positive, (there positive).mpr member⟩
  · refine (List.pairwise_middle apart_symm).mpr (List.pairwise_cons.mpr ⟨fun id member positive => ?_, others⟩)
    rintro rfl
    split at leaves
    next => exact alone (leaves ▸ member)
    next => omega

/-! ## Slots -/

namespace TouchSlot

/-- A slot that has not changed since the last report has the contact that was reported. -/
def Settled (slot : TouchSlot) : Prop :=
  slot.dirty = false → slot.trackingId = slot.reportedId ∨ slot.trackingId < 0 ∧ slot.reportedId < 0

variable (slot : TouchSlot)

theorem flush_trackingId : slot.flush.1.trackingId = slot.trackingId := by
  unfold flush
  split
  · rfl
  · split <;> rfl

theorem flush_settled (settled : slot.Settled) : slot.flush.1.Settled := by
  unfold flush
  split
  · exact settled
  · split
    next silent =>
      intro _
      unfold phase at silent
      right
      show slot.trackingId < 0 ∧ slot.reportedId < 0
      split at silent
      · split at silent <;> cases silent
      · split at silent
        · cases silent
        · omega
    next => exact fun _ => .inl rfl

theorem cancel_settled (settled : slot.Settled) : slot.cancel.1.Settled := by
  unfold cancel
  split
  · exact settled
  · exact fun _ => .inl rfl

/-- A slot that has changed and has a contact, or had one, is reported. -/
theorem flush_clean (settled : slot.Settled) :
    0 ≤ slot.flush.1.reportedId → slot.flush.1.trackingId = slot.flush.1.reportedId := by
  intro positive
  have clean : slot.flush.1.dirty = false := by
    unfold flush
    split
    next clean => simpa using clean
    next => split <;> rfl
  rcases slot.flush_settled settled clean with same | ⟨-, negative⟩
  · exact same
  · omega

end TouchSlot

theorem eachSlot_slots (turn : TouchSlot → TouchSlot × Option TouchFrame) (slots : List TouchSlot) :
    (eachSlot turn slots).1 = slots.map fun slot => (turn slot).1 := by
  induction slots with
  | nil => rfl
  | cons slot rest ih => simp [eachSlot, ih]

/-- One slot of a report. -/
theorem Accounted.flush {before after : List TouchSlot} {slot : TouchSlot}
    (accounted : Accounted ((before ++ slot :: after).map TouchSlot.reportedId) frames)
    (clean : ∀ other ∈ before, 0 ≤ other.reportedId → other.trackingId = other.reportedId)
    (distinct : Apart ((before ++ slot :: after).map TouchSlot.trackingId)) (tidy : Tidy (slot :: after)) :
    Accounted ((before ++ slot.flush.1 :: after).map TouchSlot.reportedId) (frames ++ slot.flush.2.toList) := by
  rw [List.map_append, List.map_cons] at accounted distinct ⊢
  have own := (List.pairwise_cons.mp ((List.pairwise_middle apart_symm).mp accounted.apart)).1
  have named := (List.pairwise_cons.mp ((List.pairwise_middle apart_symm).mp distinct)).1
  obtain ⟨same, released⟩ := tidy
  have kept := same slot (List.mem_cons_self ..)
  have later := (List.pairwise_cons.mp released).1
  unfold TouchSlot.flush
  split
  next => simpa using accounted
  next changed =>
    unfold TouchSlot.phase
    by_cases had : slot.reportedId ≥ 0
    · by_cases has : slot.trackingId ≥ 0
      · simp only [had, has, if_true]
        refine accounted.says (slot.frame .move slot.trackingId) has (.inr (kept had has).symm) ?_ ?_ rfl
        · intro member
          exact own slot.trackingId member had (kept had has)
        · simp [TouchSlot.frame, kept had has]
      · simp only [had, has, if_true, if_false]
        refine accounted.says (slot.frame .up slot.reportedId) had (.inr rfl) ?_ ?_ ?_
        · intro member
          exact own slot.reportedId member had rfl
        · simp [TouchSlot.frame]
        · show slot.trackingId < 0
          omega
    · by_cases has : slot.trackingId ≥ 0
      · simp only [had, has, if_true, if_false]
        refine accounted.says (slot.frame .down slot.trackingId) has (.inl (by omega)) ?_ ?_ rfl
        · intro member
          rcases List.mem_append.mp member with first | rest
          · obtain ⟨other, there, reported⟩ := List.mem_map.mp first
            have tracked := clean other there (by rw [reported]; exact has)
            refine named slot.trackingId ?_ has rfl
            refine List.mem_append_left _ (List.mem_map.mpr ⟨other, there, ?_⟩)
            exact tracked.trans reported
          · obtain ⟨other, there, reported⟩ := List.mem_map.mp rest
            exact later other there (by omega) has reported
        · have apart : slot.reportedId ≠ slot.trackingId := by omega
          simp [TouchSlot.frame, apart]
      · simp only [had, has, if_false]
        simpa using accounted

/-- A whole report. -/
theorem Accounted.report (before : List TouchSlot) {after : List TouchSlot}
    (accounted : Accounted ((before ++ after).map TouchSlot.reportedId) frames)
    (clean : ∀ other ∈ before, 0 ≤ other.reportedId → other.trackingId = other.reportedId)
    (settled : ∀ slot ∈ after, slot.Settled) (distinct : Apart ((before ++ after).map TouchSlot.trackingId))
    (tidy : Tidy after) :
    Accounted ((before ++ (eachSlot TouchSlot.flush after).1).map TouchSlot.reportedId)
      (frames ++ (eachSlot TouchSlot.flush after).2) := by
  induction after generalizing before frames with
  | nil => simpa [eachSlot] using accounted
  | cons slot rest ih =>
    have turned := accounted.flush clean distinct tidy
    have middle : before ++ slot.flush.1 :: rest = (before ++ [slot.flush.1]) ++ rest := by simp
    rw [middle] at turned
    have done := ih _ turned ?_ (fun other member => settled other (List.mem_cons_of_mem _ member)) ?_
      ⟨fun other member => tidy.same other (List.mem_cons_of_mem _ member), (List.pairwise_cons.mp tidy.released).2⟩
    · simpa [eachSlot] using done
    · intro other member
      rcases List.mem_append.mp member with first | last
      · exact clean other first
      · obtain rfl := List.mem_singleton.mp last
        exact slot.flush_clean (settled slot (List.mem_cons_self ..))
    · simpa [Apart, slot.flush_trackingId] using distinct

/-- Everything that is down is cancelled. -/
theorem Accounted.cancelAll (before : List TouchSlot) {after : List TouchSlot}
    (accounted : Accounted ((before ++ after).map TouchSlot.reportedId) frames) :
    Accounted ((before ++ (eachSlot TouchSlot.cancel after).1).map TouchSlot.reportedId)
      (frames ++ (eachSlot TouchSlot.cancel after).2) := by
  induction after generalizing before frames with
  | nil => simpa [eachSlot] using accounted
  | cons slot rest ih =>
    have turned : Accounted ((before ++ slot.cancel.1 :: rest).map TouchSlot.reportedId) (frames ++ slot.cancel.2.toList) := by
      rw [List.map_append, List.map_cons] at accounted ⊢
      have own := (List.pairwise_cons.mp ((List.pairwise_middle apart_symm).mp accounted.apart)).1
      unfold TouchSlot.cancel
      split
      next => simpa using accounted
      next had =>
        refine accounted.says (slot.frame .cancel slot.reportedId) (Int.not_lt.mp had) (.inr rfl) ?_ ?_ ?_
        · intro member
          exact own slot.reportedId member (Int.not_lt.mp had) rfl
        · simp [TouchSlot.frame]
        · show (-1 : Int) < 0
          decide
    have middle : before ++ slot.cancel.1 :: rest = (before ++ [slot.cancel.1]) ++ rest := by simp
    rw [middle] at turned
    simpa [eachSlot] using ih _ turned

/-! ## Runs -/

namespace Decoding
variable {r : Decoding} {update : TouchSlot → TouchSlot}

structure Sound (r : Decoding) : Prop where
  accounted : Accounted (r.decoder.slots.map TouchSlot.reportedId) r.frames
  settled : ∀ slot ∈ r.decoder.slots, slot.Settled
  selected : r.decoder.slot = TouchDecoder.clampSlot r.decoder.slots.length r.device.slot
  /-- What the decoder takes a slot to have, the device has in a slot that the decoder takes for it. -/
  backed : ∀ (i : Nat) slot, r.decoder.slots[i]? = some slot → 0 ≤ slot.trackingId →
    ∃ named, TouchDecoder.clampSlot r.decoder.slots.length named = i ∧ r.device.contacts named = slot.trackingId

theorem start_sound (logicalWidth logicalHeight : Int) (xRange yRange : AxisRange) (slotCount : Nat) :
    (start logicalWidth logicalHeight xRange yRange slotCount).Sound := by
  have fresh : ∀ slot ∈ (start logicalWidth logicalHeight xRange yRange slotCount).decoder.slots, slot = {} := by
    intro slot member
    exact List.eq_of_mem_replicate member
  refine ⟨⟨fun id => trivial, fun id => ?_, ?_⟩, fun slot member => ?_, ?_, fun i slot there valid => ?_⟩
  · constructor
    · intro down
      cases down
    · rintro ⟨valid, member⟩
      obtain ⟨slot, there, reported⟩ := List.mem_map.mp member
      rw [fresh slot there] at reported
      have negative : (-1 : Int) = id := reported
      omega
  · refine List.pairwise_of_forall_mem_list fun id member other _ valid => ?_
    obtain ⟨slot, there, reported⟩ := List.mem_map.mp member
    rw [fresh slot there] at reported
    have negative : (-1 : Int) = id := reported
    omega
  · rw [fresh slot member]
    exact fun _ => .inl rfl
  · simp [start, TouchDecoder.new, TouchDecoder.clampSlot]
  · rw [fresh slot (List.mem_of_getElem? there)] at valid
    exact absurd valid (by decide)

/-- Slots of the decoder have contacts of their own where those of the device have. -/
theorem Sound.distinct (sound : r.Sound) (distinct : r.device.Distinct) : Apart (r.decoder.slots.map TouchSlot.trackingId) := by
  refine List.pairwise_iff_getElem.mpr fun i j first second before => ?_
  simp only [List.getElem_map]
  rw [List.length_map] at first second
  intro valid same
  obtain ⟨named, here, contact⟩ := sound.backed i r.decoder.slots[i] (List.getElem?_eq_getElem first) valid
  obtain ⟨other, there, contact'⟩ := sound.backed j r.decoder.slots[j] (List.getElem?_eq_getElem second) (by omega)
  have apart : named ≠ other := by
    rintro rfl
    omega
  exact distinct named other apart (by omega) (by rw [contact, contact', same])

/-- A turn through the slots keeps what each is taken to have, or takes it away. -/
theorem Sound.sweep {turn : TouchSlot → TouchSlot × Option TouchFrame} {timeNs sequence : Nat}
    {selected : r.decoder.slot < (eachSlot turn r.decoder.slots).1.length} (sound : r.Sound) (same : device = r.device)
    (settles : ∀ slot, slot.Settled → (turn slot).1.Settled)
    (keeps : ∀ slot, 0 ≤ (turn slot).1.trackingId → (turn slot).1.trackingId = slot.trackingId)
    (accounted : Accounted ((eachSlot turn r.decoder.slots).1.map TouchSlot.reportedId) frames) :
    Sound ⟨device, { r.decoder with
      slots := (eachSlot turn r.decoder.slots).1, sequence, lastTimeNs := timeNs, selected }, frames⟩ := by
  subst same
  refine ⟨accounted, fun slot member => ?_, ?_, fun i slot there valid => ?_⟩
  · simp only [eachSlot_slots] at member
    obtain ⟨before, there, rfl⟩ := List.mem_map.mp member
    exact settles before (sound.settled before there)
  · simp only [eachSlot_length]
    exact sound.selected
  · simp only [eachSlot_slots, List.getElem?_map, Option.map_eq_some_iff] at there
    obtain ⟨before, there, rfl⟩ := there
    rw [eachSlot_length, keeps before valid]
    exact sound.backed i before there (keeps before valid ▸ valid)

theorem modified {slots : List TouchSlot} {k i : Nat} {changed : TouchSlot}
    (there : (slots.modify k update)[i]? = some changed) :
    (k = i ∧ ∃ slot, slots[k]? = some slot ∧ changed = update slot) ∨ (k ≠ i ∧ slots[i]? = some changed) := by
  rw [List.getElem?_modify] at there
  cases was : slots[i]? with
  | none => simp [was] at there
  | some slot =>
    by_cases here : k = i
    · subst here
      refine .inl ⟨rfl, slot, was, ?_⟩
      simpa [was] using there.symm
    · refine .inr ⟨here, ?_⟩
      simpa [was, here] using there

/-- A change of the slot that the device speaks of. -/
theorem Sound.change {timeNs : Nat} (sound : r.Sound)
    (slot : device.slot = r.device.slot) (keeps : ∀ slot, (update slot).reportedId = slot.reportedId)
    (others : ∀ named, named ≠ r.device.slot → device.contacts named = r.device.contacts named)
    (own : ∀ slot, 0 ≤ (update slot).trackingId → r.decoder.slots[r.decoder.slot]? = some slot →
      ∃ named, TouchDecoder.clampSlot r.decoder.slots.length named = r.decoder.slot ∧
        device.contacts named = (update slot).trackingId) :
    Sound ⟨device, ({ r.decoder with lastTimeNs := timeNs } : TouchDecoder).change update, r.frames⟩ := by
  have reported : (r.decoder.slots.modify r.decoder.slot fun slot => { update slot with dirty := true }).map TouchSlot.reportedId =
      r.decoder.slots.map TouchSlot.reportedId := by
    refine List.ext_getElem? fun i => ?_
    simp only [List.getElem?_map, List.getElem?_modify]
    split
    · cases r.decoder.slots[i]? with
      | none => rfl
      | some slot => simp [keeps slot]
    · simp
  refine ⟨?_, fun changed member => ?_, ?_, fun i changed there valid => ?_⟩
  · show Accounted ((r.decoder.slots.modify r.decoder.slot _).map TouchSlot.reportedId) r.frames
    rw [reported]
    exact sound.accounted
  · obtain ⟨i, there⟩ := List.mem_iff_getElem?.mp member
    rcases modified there with ⟨-, before, -, rfl⟩ | ⟨-, was⟩
    · intro clean
      cases clean
    · exact sound.settled changed (List.mem_of_getElem? was)
  · simp only [TouchDecoder.change, List.length_modify, slot]
    exact sound.selected
  · simp only [TouchDecoder.change, List.length_modify]
    rcases modified there with ⟨rfl, before, was, rfl⟩ | ⟨apart, was⟩
    · exact own before valid was
    · obtain ⟨named, clamped, contact⟩ := sound.backed i changed was valid
      refine ⟨named, clamped, ?_⟩
      rw [others named, contact]
      rintro rfl
      exact apart (sound.selected.trans clamped)

/-- A change that leaves the contact of the slot. -/
theorem Sound.touch {timeNs : Nat} (sound : r.Sound) (same : device = r.device)
    (keeps : ∀ slot, (update slot).reportedId = slot.reportedId ∧ (update slot).trackingId = slot.trackingId) :
    Sound ⟨device, ({ r.decoder with lastTimeNs := timeNs } : TouchDecoder).change update, r.frames⟩ := by
  subst same
  refine sound.change rfl (fun slot => (keeps slot).1) (fun _ _ => rfl) fun slot valid there => ?_
  rw [(keeps slot).2] at valid ⊢
  exact sound.backed r.decoder.slot slot there valid

theorem Sound.next {event : RawEvent} (sound : r.Sound) (distinct : r.device.Distinct) (tidy : TidyReport r event) :
    (r.next event).Sound := by
  cases reading : event.reading with
  | dropped =>
    have device : r.device.next event = r.device := by simp [TouchDevice.next, reading]
    have goes : r.next event = ⟨r.device.next event, (({ r.decoder with lastTimeNs := event.timeNs } : TouchDecoder).cancelAll).2,
        r.frames ++ (eachSlot TouchSlot.cancel r.decoder.slots).2⟩ := by
      simp [Decoding.next, TouchDecoder.consume, reading, TouchDecoder.cancelAll, TouchDecoder.sweep, numbered_frames]
    rw [goes]
    have accounted := Accounted.cancelAll [] (by simpa using sound.accounted)
    refine sound.sweep device TouchSlot.cancel_settled (fun slot valid => ?_) (by simpa using accounted)
    unfold TouchSlot.cancel at valid ⊢
    split
    next => rfl
    next had =>
      rw [if_neg had] at valid
      have positive : (0 : Int) ≤ -1 := valid
      exact absurd positive (by decide)
  | report =>
    have device : r.device.next event = r.device := by simp [TouchDevice.next, reading]
    have goes : r.next event = ⟨r.device.next event, (({ r.decoder with lastTimeNs := event.timeNs } : TouchDecoder).flush).2,
        r.frames ++ (eachSlot TouchSlot.flush r.decoder.slots).2⟩ := by
      simp [Decoding.next, TouchDecoder.consume, reading, TouchDecoder.flush, TouchDecoder.sweep, numbered_frames]
    rw [goes]
    have accounted := Accounted.report [] (by simpa using sound.accounted) (fun _ none => nomatch none) sound.settled
      (by simpa using sound.distinct distinct) (tidy reading)
    exact sound.sweep device TouchSlot.flush_settled (fun slot _ => slot.flush_trackingId) (by simpa using accounted)
  | slot value =>
    have goes : r.next event = ⟨{ r.device with slot := value }, ({ r.decoder with lastTimeNs := event.timeNs } : TouchDecoder).select value,
        r.frames⟩ := by
      simp [Decoding.next, TouchDecoder.consume, TouchDevice.next, reading]
    rw [goes]
    exact ⟨sound.accounted, sound.settled, rfl, sound.backed⟩
  | trackingId value =>
    have goes : r.next event = ⟨{ r.device with contacts := Function.update r.device.contacts r.device.slot value },
        ({ r.decoder with lastTimeNs := event.timeNs } : TouchDecoder).change (fun slot => { slot with trackingId := value }),
        r.frames⟩ := by
      simp [Decoding.next, TouchDecoder.consume, TouchDevice.next, reading]
    rw [goes]
    refine sound.change rfl (fun _ => rfl) (fun named apart => Function.update_of_ne apart _ _) fun slot valid _ => ?_
    exact ⟨r.device.slot, sound.selected.symm, Function.update_self ..⟩
  | x value =>
    have goes : r.next event = ⟨r.device.next event, ({ r.decoder with lastTimeNs := event.timeNs } : TouchDecoder).change
        (fun slot => { slot with x := r.decoder.xRange.scale value r.decoder.logicalWidth }), r.frames⟩ := by
      simp [Decoding.next, TouchDecoder.consume, reading]
    rw [goes]
    exact sound.touch (by simp [TouchDevice.next, reading]) fun _ => ⟨rfl, rfl⟩
  | y value =>
    have goes : r.next event = ⟨r.device.next event, ({ r.decoder with lastTimeNs := event.timeNs } : TouchDecoder).change
        (fun slot => { slot with y := r.decoder.yRange.scale value r.decoder.logicalHeight }), r.frames⟩ := by
      simp [Decoding.next, TouchDecoder.consume, reading]
    rw [goes]
    exact sound.touch (by simp [TouchDevice.next, reading]) fun _ => ⟨rfl, rfl⟩
  | pressure value =>
    have goes : r.next event = ⟨r.device.next event, ({ r.decoder with lastTimeNs := event.timeNs } : TouchDecoder).change
        (fun slot => { slot with pressure := clamp 0 255 value }), r.frames⟩ := by
      simp [Decoding.next, TouchDecoder.consume, reading]
    rw [goes]
    exact sound.touch (by simp [TouchDevice.next, reading]) fun _ => ⟨rfl, rfl⟩
  | ignored =>
    have goes : r.next event = ⟨r.device, { r.decoder with lastTimeNs := event.timeNs }, r.frames⟩ := by
      simp [Decoding.next, TouchDecoder.consume, TouchDevice.next, reading]
    rw [goes]
    exact ⟨sound.accounted, sound.settled, sound.selected, sound.backed⟩

end Decoding

/-- Along every run of events whose active slots have contacts of their own, and whose reports
    the decoder meets tidy, the frames of each contact are presses, moves and releases in order. -/
theorem touch_contacts_complete (logicalWidth logicalHeight : Int) (xRange yRange : AxisRange) (slotCount : Nat)
    (events : List RawEvent)
    (distinct : Runs.Along Decoding.next (fun r event => (r.next event).device.Distinct)
      (.start logicalWidth logicalHeight xRange yRange slotCount) events)
    (tidy : Runs.Along Decoding.next TidyReport (.start logicalWidth logicalHeight xRange yRange slotCount) events) :
    (events.foldl Decoding.next (.start logicalWidth logicalHeight xRange yRange slotCount)).Complete := by
  have runs := Runs.Along.and distinct tidy
  have holds := runs.invariant (fun r : Decoding => r.Sound ∧ r.device.Distinct)
    (fun r event holds along => ⟨holds.1.next holds.2 along.2, along.1⟩)
    ⟨Decoding.start_sound .., TouchDevice.distinct_of_single fun _ _ => (by decide : (-1 : Int) < 0)⟩
  exact holds.1.accounted.shaped

/-! ## A finger after another -/

namespace Sample

def panelRange : AxisRange := ⟨0, 100⟩

def track (id : Int) : RawEvent := ⟨0, evAbs, absMtTrackingId, id⟩

def endReport : RawEvent := ⟨0, evSyn, synReport, 0⟩

/-- The first finger leaves and the second one comes, with or without a report between. -/
def fingers (between : List RawEvent) : List RawEvent :=
  [track 42, endReport, track (-1)] ++ between ++ [track 43, endReport]

def fingersStart : Decoding := .start 100 100 panelRange panelRange 2

/-- A device that never names another slot than the first. -/
theorem distinct_of_unnamed (events : List RawEvent) {r : Decoding} (slot : r.device.slot = 0)
    (single : ∀ slot, slot ≠ 0 → r.device.contacts slot < 0)
    (unnamed : events.all (fun event => event.reading matches .trackingId _ | .report) = true) :
    Runs.Along Decoding.next (fun r event => (r.next event).device.Distinct) r events := by
  induction events generalizing r with
  | nil => trivial
  | cons event rest ih =>
    obtain ⟨first, later⟩ : (event.reading matches .trackingId _ | .report) = true ∧
        rest.all (fun event => event.reading matches .trackingId _ | .report) = true := by
      simpa using unnamed
    have stays : (r.device.next event).slot = 0 ∧ ∀ slot, slot ≠ 0 → (r.device.next event).contacts slot < 0 := by
      unfold TouchDevice.next
      cases reading : event.reading with
      | trackingId id =>
        refine ⟨slot, fun other apart => ?_⟩
        simp only
        rw [slot, Function.update_of_ne apart]
        exact single other apart
      | report => exact ⟨slot, single⟩
      | _ => simp [reading] at first
    exact ⟨TouchDevice.distinct_of_single stays.2, ih stays.1 stays.2 later⟩

theorem fingers_complete : ((fingers [endReport]).foldl Decoding.next fingersStart).Complete :=
  touch_contacts_complete 100 100 panelRange panelRange 2 (fingers [endReport])
    (distinct_of_unnamed _ rfl (fun _ _ => (by decide : (-1 : Int) < 0)) (by decide))
    (by decide)

/-- In one report the second finger follows on the first: it moves and has not come down. -/
theorem second_finger_only_moves :
    Runs.Along Decoding.next (fun r event => (r.next event).device.Distinct) fingersStart (fingers []) ∧
      phasesOf 43 ((fingers []).foldl Decoding.next fingersStart).frames = [.move] ∧
      ¬((fingers []).foldl Decoding.next fingersStart).Complete := by
  have moves : phasesOf 43 ((fingers []).foldl Decoding.next fingersStart).frames = [.move] := by decide
  refine ⟨distinct_of_unnamed _ rfl (fun _ _ => (by decide : (-1 : Int) < 0)) (by decide), moves, fun complete => ?_⟩
  have shaped := complete 43
  rw [moves] at shaped
  revert shaped
  decide

end Sample

end Remagic.Display
