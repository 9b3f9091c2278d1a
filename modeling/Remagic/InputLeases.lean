import Mathlib.Data.List.Perm.Subperm
import Remagic.InputMachine

/-!
# The way of a lease to the panel

A lease is prepared, asked of the panel or committed by it, and it is in one of
these places at most once. So a lease that the panel has committed is never
committed again once the panel has left it.
-/

namespace Remagic.Display
open PanelRuntime

/-- The leases that the commands ask the panel to show. -/
def asked (commands : List PanelCommand) : List PanelLease := commands.filterMap PanelCommand.shown

theorem asked_append (first second : List PanelCommand) : asked (first ++ second) = asked first ++ asked second :=
  List.filterMap_append

variable {commands : List PanelCommand}

theorem asked_eq_nil (others : ∀ command ∈ commands, command.shown = none) :
    asked commands = [] := List.filterMap_eq_nil_iff.mpr others

theorem asked_pens (pens : HostState.OnlyPen commands) : asked commands = [] := by
  refine asked_eq_nil fun command member => ?_
  obtain ⟨lease, frame, rfl⟩ := pens command member
  rfl

theorem asked_sublist {fewer commands : List PanelCommand} (taken : fewer.Sublist commands) :
    (asked fewer).Sublist (asked commands) := taken.filterMap _

namespace InputState
variable {s t : InputState}

def offered (s : InputState) : List PanelLease :=
  asked s.host.panel.commands ++ s.host.preparedForeground.toList.map ForegroundLease.panelLease ++ s.committed.toList

structure LeasesSound (s : InputState) : Prop where
  once : s.offered.Nodup
  granted : ∀ lease ∈ s.offered, s.host.Within lease

theorem LeasesSound.not_asked (sound : s.LeasesSound) {lease : PanelLease} (committed : s.committed = some lease) :
    lease ∉ asked s.host.panel.commands := by
  intro again
  have once := sound.once
  unfold offered at once
  rw [committed, List.append_assoc] at once
  exact (List.nodup_append.mp once).2.2 lease again lease (by simp) rfl

/-- A step that offers no new lease. -/
theorem LeasesSound.fewer (sound : s.LeasesSound) (fewer : t.offered.Subperm s.offered)
    (fences : t.host.fences = s.host.fences) : t.LeasesSound := by
  obtain ⟨middle, same, sublist⟩ := fewer
  refine ⟨same.nodup_iff.mp (sublist.nodup sound.once), fun lease member => ?_⟩
  have within := sound.granted lease (sublist.subset (same.mem_iff.mpr member))
  simpa only [HostState.Within, fences] using within

/-- A step that offers one new lease, which the fence of its surface has admitted. -/
theorem LeasesSound.admitted (sound : s.LeasesSound) {lease : PanelLease} (admits : s.host.Admits lease)
    (fewer : t.offered.Subperm (lease :: s.offered))
    (fences : t.host.fences = (s.host.commitForegroundFence lease.key lease.generation lease.foregroundEpoch).fences) :
    t.LeasesSound := by
  obtain ⟨middle, same, sublist⟩ := fewer
  have unknown : lease ∉ s.offered := fun member => admits.not_within (sound.granted lease member)
  refine ⟨same.nodup_iff.mp (sublist.nodup (List.nodup_cons.mpr ⟨unknown, sound.once⟩)), fun other member => ?_⟩
  have within : (s.host.commitForegroundFence lease.key lease.generation lease.foregroundEpoch).Within other := by
    rcases List.mem_cons.mp (sublist.subset (same.mem_iff.mpr member)) with rfl | known
    · exact HostState.within_committed other
    · exact HostState.Within.forward admits (sound.granted other known)
  simpa only [HostState.Within, fences] using within

/-- A step that leaves every lease where it is. -/
theorem LeasesSound.still (sound : s.LeasesSound) (commands : asked t.host.panel.commands = asked s.host.panel.commands)
    (prepared : t.host.preparedForeground = s.host.preparedForeground) (committed : t.committed = s.committed)
    (fences : t.host.fences = s.host.fences) : t.LeasesSound := by
  refine sound.fewer (List.Perm.of_eq ?_).subperm fences
  unfold offered
  rw [commands, prepared, committed]

/-- Commands that show nothing leave the leases alone. -/
theorem LeasesSound.unmoved (sound : s.LeasesSound) (unmoved : HostState.Unmoved s.host t.host commands)
    (others : asked commands = []) (committed : t.committed = s.committed) : t.LeasesSound := by
  refine sound.still ?_ unmoved.prepared committed unmoved.fences
  rw [unmoved.commands, asked_append, others, List.append_nil]

theorem prepared_withdrawn (commands : asked t.host.panel.commands = asked s.host.panel.commands)
    (prepared : t.host.preparedForeground.toList.Sublist s.host.preparedForeground.toList)
    (committed : t.committed = s.committed) : t.offered.Subperm s.offered := by
  unfold offered
  rw [commands, committed]
  exact (((prepared.map _).append_left _).append_right _).subperm

theorem asked_new (commands : List PanelCommand) {lease : PanelLease} (rest committed : List PanelLease) :
    (asked commands ++ [lease] ++ committed).Subperm (lease :: (asked commands ++ rest ++ committed)) := by
  have moved : (asked commands ++ [lease] ++ committed).Perm (lease :: (asked commands ++ committed)) := by
    rw [List.append_assoc, List.singleton_append]
    exact List.perm_middle
  refine moved.subperm.trans (List.Sublist.subperm (.cons_cons lease ?_))
  exact (List.sublist_append_left _ _).append_right _

theorem finished_leasesSound (sound : s.LeasesSound) (sleepEpoch : Nat) :
    ({ s with host := s.host.finishCancellation sleepEpoch } : InputState).LeasesSound := by
  obtain ⟨pens, only, unmoved⟩ := HostState.fence_unmoved s.host
  refine sound.still ?_ unmoved.prepared rfl unmoved.fences
  show asked s.host.fenceInputContacts.panel.commands = _
  rw [unmoved.commands, asked_append, asked_pens only, List.append_nil]

theorem operated_leasesSound (sound : s.LeasesSound) {cancelled : Nat} {host : HostState}
    (operated : HostState.Operated cancelled s.host host) : ({ s with host := host } : InputState).LeasesSound := by
  cases operated with
  | idle => exact sound
  | shown lease command unlocked shows kind =>
    refine sound.unmoved (HostState.sent_unmoved command) (asked_eq_nil ?_) rfl
    rcases kind with rfl | ⟨rect, intent, rfl⟩ <;> simp [PanelCommand.shown]
  | inked foreground enabled region unlocked shows =>
    refine sound.still ?_ rfl rfl rfl
    exact (asked_append _ _).trans (List.append_nil _)
  | held lock command locked kind =>
    refine sound.unmoved (HostState.sent_unmoved command) (asked_eq_nil ?_) rfl
    rcases kind with rfl | ⟨sequence, rfl⟩ <;> simp [PanelCommand.shown]
  | switched lease fullRefresh unlocked admits =>
    obtain ⟨pens, only, unmoved⟩ := HostState.fence_unmoved ((s.host.sent (.setForeground lease.panelLease
      fullRefresh)).commitForegroundFence lease.key lease.generation lease.epoch)
    refine sound.admitted admits ?_ unmoved.fences
    have queue : asked ((s.host.sent (.setForeground lease.panelLease fullRefresh)).commitForegroundFence lease.key
        lease.generation lease.epoch).fenceInputContacts.panel.commands =
        asked s.host.panel.commands ++ [lease.panelLease] := by
      rw [unmoved.commands, asked_append, asked_pens only, List.append_nil]
      exact asked_append _ _
    unfold offered
    simp only [queue, Option.toList_none, List.map_nil, List.append_nil]
    exact asked_new _ _ _
  | prepared lease unlocked admits =>
    obtain ⟨pens, only, unmoved⟩ :=
      HostState.fence_unmoved (s.host.commitForegroundFence lease.key lease.generation lease.epoch)
    refine sound.admitted admits ?_ unmoved.fences
    have queue : asked (s.host.commitForegroundFence lease.key lease.generation
        lease.epoch).fenceInputContacts.panel.commands = asked s.host.panel.commands := by
      rw [unmoved.commands, asked_append, asked_pens only, List.append_nil]
      rfl
    unfold offered
    simp only [queue, Option.toList_some, List.map_cons, List.map_nil]
    exact asked_new _ _ _
  | activated lease inkEnabled fullRefresh unlocked prepared =>
    refine sound.fewer (List.Perm.of_eq ?_).subperm rfl
    have queue : asked (s.host.sent (.activateForeground lease.panelLease inkEnabled fullRefresh)).panel.commands =
        asked s.host.panel.commands ++ [lease.panelLease] := asked_append _ _
    unfold offered
    simp only [queue, prepared, Option.toList_none, Option.toList_some, List.map_nil, List.map_cons, List.append_nil]
  | withdrawn unlocked => exact sound.fewer (prepared_withdrawn rfl (List.nil_sublist _) rfl) rfl
  | cleared lease unlocked shows =>
    obtain ⟨pens, only, unmoved⟩ :=
      HostState.fence_unmoved ({ s.host with preparedForeground := none }.sent (.clearForeground lease))
    refine sound.fewer (prepared_withdrawn ?_ ?_ rfl) unmoved.fences
    · show asked (HostState.fenceInputContacts _).panel.commands = _
      rw [unmoved.commands, asked_append, asked_pens only, List.append_nil]
      exact (asked_append _ _).trans (List.append_nil _)
    · show (HostState.fenceInputContacts _).preparedForeground.toList.Sublist _
      rw [unmoved.prepared]
      exact List.nil_sublist _
  | locked lease sleepEpoch unlocked unprepared newer admits =>
    obtain ⟨pens, only, unmoved⟩ := HostState.fence_unmoved
      { (s.host.sent (.showLock lease.panelLease sleepEpoch)).commitForegroundFence lease.key lease.generation
          lease.epoch with
        lastSleepEpoch := sleepEpoch }
    refine sound.admitted admits ?_ unmoved.fences
    have queue : asked (HostState.fenceInputContacts { (s.host.sent (.showLock lease.panelLease
        sleepEpoch)).commitForegroundFence lease.key lease.generation lease.epoch with
          lastSleepEpoch := sleepEpoch }).panel.commands = asked s.host.panel.commands ++ [lease.panelLease] := by
      rw [unmoved.commands, asked_append, asked_pens only, List.append_nil]
      exact asked_append _ _
    have prepared := unmoved.prepared.trans unprepared
    unfold offered
    simp only [queue, prepared, Option.toList_none, List.map_nil, List.append_nil]
    exact asked_new _ _ _
  | finished lock locked acknowledged => exact finished_leasesSound sound lock.sleepEpoch

theorem asked_departed (host : HostState) (key : Int) (told : Bool) :
    asked (host.departed key told).panel.commands = asked host.panel.commands := by
  cases told with
  | false => rfl
  | true => exact (asked_append _ _).trans (List.append_nil _)

theorem departed_leasesSound (sound : s.LeasesSound) {client : Nat} {key : Int} {host : HostState}
    (departs : HostState.Departs s.host client key host) : ({ s with host := host } : InputState).LeasesSound := by
  have fences : ∀ told, (s.host.departed key told).fences = s.host.fences := by
    rintro (_ | _) <;> rfl
  have prepared : ∀ told, (s.host.departed key told).preparedForeground.toList.Sublist
      s.host.preparedForeground.toList := by
    intro told
    show (s.host.preparedForeground.filter _).toList.Sublist _
    cases s.host.preparedForeground with
    | none => exact List.Sublist.refl _
    | some lease =>
      rw [Option.filter_some]
      split
      · exact List.Sublist.refl _
      · exact List.nil_sublist _
  cases departs with
  | absent unregistered => exact sound
  | shared entry clients registered others kept => exact sound.still rfl rfl rfl rfl
  | hidden entry told registered last stays =>
    exact sound.fewer (prepared_withdrawn (asked_departed _ _ told) (prepared told) rfl) (fences told)
  | stuck entry told lease registered last clears =>
    obtain ⟨pens, only, unmoved⟩ := HostState.fence_unmoved (s.host.departed key told)
    refine sound.fewer (prepared_withdrawn ?_ ?_ rfl) (unmoved.fences.trans (fences told))
    · show asked (HostState.fenceInputContacts _).panel.commands = _
      rw [unmoved.commands, asked_append, asked_pens only, List.append_nil]
      exact asked_departed _ _ told
    · show (HostState.fenceInputContacts _).preparedForeground.toList.Sublist _
      rw [unmoved.prepared]
      exact prepared told
  | cleared entry told lease registered last clears =>
    obtain ⟨pens, only, first⟩ := HostState.fence_unmoved (s.host.departed key told)
    obtain ⟨more, only', second⟩ := HostState.fence_unmoved
      ((s.host.departed key told).fenceInputContacts.sent (.clearForeground lease))
    have unmoved := first.trans ((HostState.sent_unmoved (.clearForeground lease)).trans second)
    refine sound.fewer (prepared_withdrawn ?_ ?_ rfl) (unmoved.fences.trans (fences told))
    · show asked (HostState.fenceInputContacts _).panel.commands = _
      rw [unmoved.commands, asked_append, asked_append, asked_append, asked_pens only, asked_pens only', asked_departed]
      simp [asked, PanelCommand.shown]
    · show (HostState.fenceInputContacts _).preparedForeground.toList.Sublist _
      rw [unmoved.prepared]
      exact prepared told

theorem aborted_leasesSound (sound : s.LeasesSound) (key : Int) :
    ({ s with host := s.host.abortRegistration key } : InputState).LeasesSound := by
  rcases HostState.abortRegistration_spec (s := s.host) key with same | ⟨entry, _, _, same | same⟩
  · rw [same]
    exact sound
  · rw [same]
    exact sound.still rfl rfl rfl rfl
  · rw [same]
    exact sound.still ((asked_append _ _).trans (List.append_nil _)) rfl rfl rfl

/-- What the worker commits it has taken from its queue. -/
theorem worked_leasesSound (sound : s.LeasesSound) {command : PanelCommand} {rest commands : List PanelCommand}
    (connected : Bool) {committed : Option PanelLease} (queue : s.host.panel.commands = command :: rest)
    (taken : commands.Sublist rest)
    (announces : committed = s.committed ∨ committed = none ∨ command.shown.isSome = true ∧ committed = command.shown) :
    (s.afterWork commands connected committed).LeasesSound := by
  refine sound.fewer ?_ rfl
  have before : asked s.host.panel.commands = command.shown.toList ++ asked rest := by
    rw [queue]
    unfold asked
    cases shown : command.shown with
    | none => rw [List.filterMap_cons_none shown]; rfl
    | some lease => rw [List.filterMap_cons_some shown]; rfl
  have shorter := asked_sublist taken
  unfold offered afterWork
  simp only [before]
  rcases announces with rfl | rfl | ⟨isSome, rfl⟩
  · exact (((shorter.trans (List.sublist_append_right _ _)).append_right _).append_right _).subperm
  · rw [Option.toList_none, List.append_nil]
    refine List.Sublist.subperm (.trans ?_ (List.sublist_append_left _ _))
    exact (shorter.trans (List.sublist_append_right _ _)).append_right _
  · refine List.perm_append_comm.subperm.trans (List.Sublist.subperm ?_)
    rw [List.append_assoc, List.append_assoc]
    exact (List.Sublist.append shorter (List.sublist_append_left _ _)).append_left _

theorem flushed_leasesSound (sound : s.LeasesSound) (connected : Bool) {committed : Option PanelLease}
    (taken : commands.Sublist s.host.panel.commands) (announces : committed = s.committed ∨ committed = none) :
    (s.afterWork commands connected committed).LeasesSound := by
  refine sound.fewer (List.Sublist.subperm (.append ((asked_sublist taken).append_right _) ?_)) rfl
  rcases announces with rfl | rfl
  · exact List.Sublist.refl _
  · exact List.nil_sublist _

/-- Whatever happens, the leases stay in order. -/
theorem stepped_leasesSound (sound : s.LeasesSound) {event : HostEvent} (stepped : Stepped s event t) :
    t.LeasesSound := by
  have dispatched : ∀ captured,
      ({ s with host := (s.host.dispatchCapturedInput s.committed captured).2 } : InputState).LeasesSound := by
    intro captured
    obtain ⟨commands, pens, unmoved, _⟩ := HostState.dispatch_frame (s := s.host) s.committed captured
    exact sound.unmoved unmoved (asked_pens pens) rfl
  cases stepped with
  | idle => exact sound
  | connected => exact sound.still rfl rfl rfl rfl
  | registered client key shmKey next fresh vacant =>
    exact sound.still ((asked_append _ _).trans (List.append_nil _)) rfl rfl rfl
  | refused client next fresh => exact sound.still rfl rfl rfl rfl
  | activated client key entry registering held => exact sound.still rfl rfl rfl rfl
  | aborted client key registering => exact (aborted_leasesSound sound key).still rfl rfl rfl rfl
  | left client key host active departs => exact (departed_leasesSound sound departs).still rfl rfl rfl rfl
  | received client => exact sound.still rfl rfl rfl rfl
  | operated cancelled host operated => exact operated_leasesSound sound operated
  | finished sleepEpoch => exact finished_leasesSound sound sleepEpoch
  | stopping commands only =>
    refine sound.still ((asked_append _ _).trans ?_) rfl rfl rfl
    have none : asked commands = [] := asked_eq_nil fun command member => by rw [only command member]; rfl
    rw [none, List.append_nil]
  | began frame opens up => exact sound.still rfl rfl rfl rfl
  | continued frame contact goesOn down => exact sound.still rfl rfl rfl rfl
  | dispatchedPen captured rest queue => exact (dispatched captured).still rfl rfl rfl rfl
  | dispatchedTouch captured rest queue => exact (dispatched captured).still rfl rfl rfl rfl
  | injected epoch frame => exact dispatched _
  | worked command rest commands connected committed queue taken announces =>
    exact worked_leasesSound sound connected queue taken announces
  | flushed commands connected committed taken announces => exact flushed_leasesSound sound connected taken announces

end InputState
end Remagic.Display
