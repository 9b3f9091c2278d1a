import Remagic.Supervisor

/-!
# Safety of the supervisor's state

What a successful operation does, once for each operation with all of its
guards; the invariant behind `validate`; and the run theorem: every state that
the nine operations reach from the default one is valid, a failed operation
changes nothing and a successful one raises the revision by one.
-/

namespace Remagic.Supervisor
open Fallible

/-! ## What an operation does -/

/-- The state with the record of one application replaced. -/
def SupervisorState.record (s : SupervisorState) (appId : AppId) (inst : AppInstance) : SupervisorState :=
  { s with apps := s.apps.insert appId inst }

/-- The foreground pointer after one application gives the foreground up. -/
def SupervisorState.without (s : SupervisorState) (appId : AppId) : Option AppId :=
  if s.foregroundApp = some appId then none else s.foregroundApp

/-- The state after leaving the managed domain, before the domain itself is written. -/
def SupervisorState.depart (s : SupervisorState) (next : SystemDomainState) : SupervisorState :=
  if next ≠ .managed then
    { s with sleeping := false, foregroundApp := none, apps := s.apps.map fun _ inst => inst.withdraw }
  else s

def SupervisorState.advance (s : SupervisorState) : SupervisorState :=
  { s with stateRevision := s.stateRevision + 1 }

@[simp] theorem advance_foregroundApp (s : SupervisorState) : s.advance.foregroundApp = s.foregroundApp := rfl
@[simp] theorem advance_stateRevision (s : SupervisorState) : s.advance.stateRevision = s.stateRevision + 1 := rfl
@[simp] theorem record_foregroundApp (s : SupervisorState) (appId : AppId) (inst : AppInstance) :
    (s.record appId inst).foregroundApp = s.foregroundApp := rfl
@[simp] theorem depart_stateRevision (s : SupervisorState) (next : SystemDomainState) :
    (s.depart next).stateRevision = s.stateRevision := by
  by_cases managed : next = .managed <;> simp [SupervisorState.depart, managed]

/-- A successful operation: the guards it passed, its token and the state it leaves. -/
inductive Step (s : SupervisorState) : Operation → Option AppToken → SupervisorState → Prop
  | transitionDomain (next : SystemDomainState) (edge : domainEdge s.domain next = true)
      (quiet : next = .stock → anyRunning s.apps = false) :
      Step s (.transitionDomain next) none { s.depart next with domain := next }.advance
  | setSleeping (sleeping : Bool) (managed : s.domain = .managed)
      (clear : sleeping = true → s.foregroundApp = none) :
      Step s (.setSleeping sleeping) none { s with sleeping := sleeping }.advance
  | startApp (appId : AppId) (generation : Nat) (pid : Option Nat)
      (managed : s.domain = .managed) (awake : s.sleeping = false) (positive : generation ≠ 0)
      (replaces : ∀ previous, s.apps[appId]? = some previous →
        previous.token.generation < generation ∧ previous.state.isTerminal = true) :
      Step s (.startApp appId generation pid) (some ⟨appId, generation, 0, none⟩)
        (s.record appId ⟨⟨appId, generation, 0, none⟩, .starting, pid, "", "", none⟩).advance
  | grantForeground (appId : AppId) (generation epoch lease : Nat) (inst : AppInstance)
      (lookup : s.apps[appId]? = some inst) (same : inst.token.generation = generation)
      (managed : s.domain = .managed) (awake : s.sleeping = false) (clear : s.foregroundApp = none)
      (ready : inst.state = .starting ∨ inst.state = .background)
      (fresh : inst.token.foregroundEpoch < epoch) (positive : lease ≠ 0) :
      Step s (.grantForeground appId generation epoch lease)
        (some { inst.token with foregroundEpoch := epoch, leaseId := some lease })
        { s.record appId { inst with
            token := { inst.token with foregroundEpoch := epoch, leaseId := some lease }
            state := .foreground } with
          foregroundApp := some appId, lastApp := some appId }.advance
  | markBackgroundReady (appId : AppId) (generation : Nat) (title subtitle : String) (inst : AppInstance)
      (lookup : s.apps[appId]? = some inst) (same : inst.token.generation = generation)
      (ready : inst.state = .starting) :
      Step s (.markBackgroundReady appId generation title subtitle) (some inst.token)
        (s.record appId { inst with state := .background, title := title, subtitle := subtitle }).advance
  | enterBackground (appId : AppId) (generation epoch : Nat) (inst : AppInstance)
      (lookup : s.apps[appId]? = some inst) (same : inst.token.generation = generation)
      (shown : inst.state = .foreground) (current : inst.token.foregroundEpoch = epoch) :
      Step s (.enterBackground appId generation epoch) (some { inst.token with leaseId := none })
        { s.record appId { inst with
            state := .background, token := { inst.token with leaseId := none } } with
          foregroundApp := none, lastApp := some appId }.advance
  | beginStop (appId : AppId) (generation : Nat) (inst : AppInstance)
      (lookup : s.apps[appId]? = some inst) (same : inst.token.generation = generation)
      (live : inst.state.isTerminal = false) (running : inst.state ≠ .stopping) :
      Step s (.beginStop appId generation) (some { inst.token with leaseId := none })
        { s.record appId { inst with
            state := .stopping, token := { inst.token with leaseId := none } } with
          foregroundApp := s.without appId }.advance
  | finishApp (appId : AppId) (generation : Nat) (crashed : Bool) (error : Option String) (inst : AppInstance)
      (lookup : s.apps[appId]? = some inst) (same : inst.token.generation = generation)
      (live : inst.state.isTerminal = false) :
      Step s (.finishApp appId generation crashed error) (some { inst.token with leaseId := none })
        { s.record appId { inst with
            state := if crashed then .crashed else .exited
            token := { inst.token with leaseId := none }
            pid := none
            lastError := error } with
          foregroundApp := s.without appId }.advance
  | markUnresponsive (appId : AppId) (generation : Nat) (error : String) (inst : AppInstance)
      (lookup : s.apps[appId]? = some inst) (same : inst.token.generation = generation)
      (live : inst.state.isTerminal = false) (responsive : inst.state ≠ .unresponsive) :
      Step s (.markUnresponsive appId generation error) (some { inst.token with leaseId := none })
        { s.record appId { inst with
            state := .unresponsive
            token := { inst.token with leaseId := none }
            lastError := some error } with
          foregroundApp := s.without appId }.advance

/-- What a successful call has done. -/
structure Succeeds (s : SupervisorState) (op : Operation) (token : Option AppToken) (t : SupervisorState) :
    Prop where
  room : s.stateRevision + 1 ≤ u64Max
  step : Step s op token t

section Rules
variable {origin s : SupervisorState} {α : Type} {post : α → SupervisorState → Prop}

theorem ensureRevisionCapacity_rule {next : Unit → Supervised α}
    (passed : s.stateRevision ≠ u64Max → AllOrNothing s (next ()) s post) :
    AllOrNothing s (ensureRevisionCapacity >>= next) s post := by
  unfold ensureRevisionCapacity
  rw [bind_assoc]
  exact allOrNothing_get_bind (allOrNothing_failIf passed)

/-- After the capacity check the revision can be raised, whatever was edited between. -/
theorem bumpRevision_rule {next : Unit → Supervised α} (capacity : s.stateRevision + 1 ≤ u64Max)
    (rest : AllOrNothing origin (next ()) s.advance post) :
    AllOrNothing origin (bumpRevision >>= next) s post := by
  unfold bumpRevision failIf
  rw [bind_assoc]
  apply allOrNothing_get_bind
  simp only [gt_iff_lt, Nat.not_lt.mpr capacity, if_false]
  exact rest

theorem bumpRevision_last {post : Unit → SupervisorState → Prop} (capacity : s.stateRevision + 1 ≤ u64Max)
    (holds : post () s.advance) : AllOrNothing origin bumpRevision s post := by
  rw [← bind_pure bumpRevision]
  exact bumpRevision_rule capacity (allOrNothing_pure holds)

theorem currentInstance_rule {appId : AppId} {generation : Nat} {next : AppInstance → Supervised α}
    (found : ∀ inst, s.apps[appId]? = some inst → inst.token.generation = generation →
      AllOrNothing s (next inst) s post) :
    AllOrNothing s (currentInstance appId generation >>= next) s post := by
  unfold currentInstance
  rw [bind_assoc]
  apply allOrNothing_get_bind
  cases lookup : s.apps[appId]? with
  | none => exact allOrNothing_throw _
  | some inst =>
    simp only [bind_assoc, pure_bind]
    exact allOrNothing_failIf fun same => found inst lookup (by simpa using same)

end Rules

section Operations
variable {s : SupervisorState} (bounded : s.stateRevision ≤ u64Max)
include bounded

theorem transitionDomain_spec (next : SystemDomainState) :
    AllOrNothing s (transitionDomain next) s fun _ t => Succeeds s (.transitionDomain next) none t := by
  unfold transitionDomain
  refine ensureRevisionCapacity_rule fun capacity => allOrNothing_get_bind ?_
  refine allOrNothing_failIf fun edge => allOrNothing_failIf fun quiet => ?_
  have step := Step.transitionDomain (s := s) next (by simpa using edge)
    fun stock => by simpa [stock] using quiet
  have room : s.stateRevision + 1 ≤ u64Max := by omega
  unfold SupervisorState.depart at step
  by_cases leaves : next ≠ .managed
  · simp only [leaves, ne_eq, not_false_eq_true, if_true] at step ⊢
    refine allOrNothing_modify_bind (allOrNothing_modify_bind ?_)
    exact bumpRevision_last room ⟨room, step⟩
  · simp only [leaves, if_false] at step ⊢
    refine allOrNothing_modify_bind ?_
    exact bumpRevision_last room ⟨room, step⟩

theorem setSleeping_spec (sleeping : Bool) :
    AllOrNothing s (setSleeping sleeping) s fun _ t => Succeeds s (.setSleeping sleeping) none t := by
  unfold setSleeping
  refine ensureRevisionCapacity_rule fun capacity => allOrNothing_get_bind ?_
  refine allOrNothing_failIf fun managed => allOrNothing_failIf fun clear => allOrNothing_modify_bind ?_
  have room : s.stateRevision + 1 ≤ u64Max := by omega
  exact bumpRevision_last room
    ⟨room, .setSleeping sleeping (by simpa using managed) fun asleep => by simpa [asleep] using clear⟩

theorem startApp_spec (appId : AppId) (generation : Nat) (pid : Option Nat) :
    AllOrNothing s (startApp appId generation pid) s fun token t =>
      Succeeds s (.startApp appId generation pid) (some token) t := by
  unfold startApp
  refine ensureRevisionCapacity_rule fun capacity => allOrNothing_get_bind ?_
  refine allOrNothing_failIf fun active => allOrNothing_failIf fun positive => ?_
  have room : s.stateRevision + 1 ≤ u64Max := by omega
  have managed : s.domain = .managed ∧ s.sleeping = false := by simpa using active
  have finish : (∀ previous, s.apps[appId]? = some previous →
      previous.token.generation < generation ∧ previous.state.isTerminal = true) →
      Step s (.startApp appId generation pid) (some ⟨appId, generation, 0, none⟩) _ :=
    .startApp appId generation pid managed.1 managed.2 positive
  cases lookup : s.apps[appId]? with
  | none =>
    exact allOrNothing_modify_bind (bumpRevision_rule room ⟨room, finish (by simp [lookup])⟩)
  | some previous =>
    simp only
    refine allOrNothing_failIf fun newer => allOrNothing_failIf fun ended => ?_
    refine allOrNothing_modify_bind (bumpRevision_rule room ⟨room, finish ?_⟩)
    intro found same
    cases lookup.symm.trans same
    exact ⟨by omega, by simpa using ended⟩

theorem grantForeground_spec (appId : AppId) (generation epoch lease : Nat) :
    AllOrNothing s (grantForeground appId generation epoch lease) s fun token t =>
      Succeeds s (.grantForeground appId generation epoch lease) (some token) t := by
  unfold grantForeground
  refine ensureRevisionCapacity_rule fun capacity => allOrNothing_get_bind ?_
  refine allOrNothing_failIf fun active => allOrNothing_failIf fun clear => ?_
  refine currentInstance_rule fun inst lookup same => ?_
  refine allOrNothing_failIf fun ready => allOrNothing_failIf fun fresh => allOrNothing_failIf fun positive => ?_
  refine allOrNothing_modify_bind (allOrNothing_modify_bind ?_)
  have room : s.stateRevision + 1 ≤ u64Max := by omega
  have managed : s.domain = .managed ∧ s.sleeping = false := by simpa using active
  refine bumpRevision_rule room ?_
  exact ⟨room, .grantForeground appId generation epoch lease inst lookup same managed.1 managed.2
    (by simpa using clear) (by tauto) (by omega) positive⟩

theorem markBackgroundReady_spec (appId : AppId) (generation : Nat) (title subtitle : String) :
    AllOrNothing s (markBackgroundReady appId generation title subtitle) s fun token t =>
      Succeeds s (.markBackgroundReady appId generation title subtitle) (some token) t := by
  unfold markBackgroundReady
  refine ensureRevisionCapacity_rule fun capacity => currentInstance_rule fun inst lookup same => ?_
  refine allOrNothing_failIf fun ready => allOrNothing_modify_bind ?_
  have room : s.stateRevision + 1 ≤ u64Max := by omega
  refine bumpRevision_rule room ?_
  exact ⟨room, .markBackgroundReady appId generation title subtitle inst lookup same (by simpa using ready)⟩

theorem enterBackground_spec (appId : AppId) (generation epoch : Nat) :
    AllOrNothing s (enterBackground appId generation epoch) s fun token t =>
      Succeeds s (.enterBackground appId generation epoch) (some token) t := by
  unfold enterBackground
  refine ensureRevisionCapacity_rule fun capacity => currentInstance_rule fun inst lookup same => ?_
  refine allOrNothing_failIf fun current => allOrNothing_modify_bind (allOrNothing_modify_bind ?_)
  have room : s.stateRevision + 1 ≤ u64Max := by omega
  refine bumpRevision_rule room ?_
  exact ⟨room, .enterBackground appId generation epoch inst lookup same (by tauto) (by tauto)⟩

theorem beginStop_spec (appId : AppId) (generation : Nat) :
    AllOrNothing s (beginStop appId generation) s fun token t =>
      Succeeds s (.beginStop appId generation) (some token) t := by
  unfold beginStop
  refine ensureRevisionCapacity_rule fun capacity => currentInstance_rule fun inst lookup same => ?_
  refine allOrNothing_failIf fun running => allOrNothing_modify_bind (allOrNothing_modify_bind ?_)
  have room : s.stateRevision + 1 ≤ u64Max := by omega
  refine bumpRevision_rule room ?_
  have live : inst.state.isTerminal = false ∧ inst.state ≠ .stopping := by simpa using running
  exact ⟨room, .beginStop appId generation inst lookup same live.1 live.2⟩

theorem finishApp_spec (appId : AppId) (generation : Nat) (crashed : Bool) (error : Option String) :
    AllOrNothing s (finishApp appId generation crashed error) s fun token t =>
      Succeeds s (.finishApp appId generation crashed error) (some token) t := by
  unfold finishApp
  refine ensureRevisionCapacity_rule fun capacity => currentInstance_rule fun inst lookup same => ?_
  refine allOrNothing_failIf fun live => allOrNothing_modify_bind (allOrNothing_modify_bind ?_)
  have room : s.stateRevision + 1 ≤ u64Max := by omega
  refine bumpRevision_rule room ?_
  exact ⟨room, .finishApp appId generation crashed error inst lookup same (by simpa using live)⟩

theorem markUnresponsive_spec (appId : AppId) (generation : Nat) (error : String) :
    AllOrNothing s (markUnresponsive appId generation error) s fun token t =>
      Succeeds s (.markUnresponsive appId generation error) (some token) t := by
  unfold markUnresponsive
  refine ensureRevisionCapacity_rule fun capacity => currentInstance_rule fun inst lookup same => ?_
  refine allOrNothing_failIf fun responsive => allOrNothing_modify_bind (allOrNothing_modify_bind ?_)
  have room : s.stateRevision + 1 ≤ u64Max := by omega
  refine bumpRevision_rule room ?_
  have live : inst.state.isTerminal = false ∧ inst.state ≠ .unresponsive := by simpa using responsive
  exact ⟨room, .markUnresponsive appId generation error inst lookup same live.1 live.2⟩

/-- Every operation leaves the state alone and fails, or takes its step. -/
theorem perform_spec (op : Operation) : AllOrNothing s op.perform s (Succeeds s op) := by
  cases op with
  | transitionDomain next =>
    exact allOrNothing_bind (transitionDomain_spec bounded next) fun _ t step => step
  | setSleeping sleeping => exact allOrNothing_bind (setSleeping_spec bounded sleeping) fun _ t step => step
  | startApp appId generation pid => exact allOrNothing_map (startApp_spec bounded appId generation pid)
  | grantForeground appId generation epoch lease =>
    exact allOrNothing_map (grantForeground_spec bounded appId generation epoch lease)
  | markBackgroundReady appId generation title subtitle =>
    exact allOrNothing_map (markBackgroundReady_spec bounded appId generation title subtitle)
  | enterBackground appId generation epoch =>
    exact allOrNothing_map (enterBackground_spec bounded appId generation epoch)
  | beginStop appId generation => exact allOrNothing_map (beginStop_spec bounded appId generation)
  | finishApp appId generation crashed error =>
    exact allOrNothing_map (finishApp_spec bounded appId generation crashed error)
  | markUnresponsive appId generation error =>
    exact allOrNothing_map (markUnresponsive_spec bounded appId generation error)

/-- A call fails and leaves the state as it was, or succeeds and takes its step. -/
theorem call_cases (op : Operation) :
    (∃ error, op.call s = (.error error, s)) ∨ ∃ token t, op.call s = (.ok token, t) ∧ Succeeds s op token t :=
  (perform_spec bounded op).cases

end Operations

/-! ## The invariant -/

/-- A well-formed record under the key `id`, beside the foreground pointer. -/
structure AppInstance.Sound (foreground : Option AppId) (id : AppId) (inst : AppInstance) : Prop where
  keyed : inst.token.appId = id
  generation : inst.token.generation ≠ 0
  lease : inst.token.leaseId ≠ some 0
  held : inst.token.leaseId = none ↔ inst.state ≠ .foreground
  pointed : inst.state = .foreground ↔ foreground = some id

/-- What every reachable state satisfies, stated over lookups. -/
structure SupervisorState.Sound (s : SupervisorState) : Prop where
  instances : ∀ (id : AppId) (inst : AppInstance), s.apps[id]? = some inst → inst.Sound s.foregroundApp id
  pointer : ∀ id : AppId, s.foregroundApp = some id → ∃ inst, s.apps[id]? = some inst
  asleep : s.sleeping = true → s.domain = .managed ∧ s.foregroundApp = none
  owned : s.domain ≠ .managed → s.foregroundApp = none
  settled : s.domain = .stock → ∀ (id : AppId) (inst : AppInstance), s.apps[id]? = some inst → inst.state.isTerminal = true
  bounded : s.stateRevision ≤ u64Max

theorem anyRunning_eq_false (apps : Std.ExtTreeMap AppId AppInstance compare) :
    anyRunning apps = false ↔ ∀ (id : AppId) (inst : AppInstance), apps[id]? = some inst → inst.state.isTerminal = true := by
  unfold anyRunning
  rw [List.any_eq_false]
  constructor
  · intro quiet id inst lookup
    simpa using quiet (id, inst) (Std.ExtTreeMap.mem_toList_iff_getElem?_eq_some.mpr lookup)
  · intro terminal entry member
    simpa using terminal entry.1 entry.2 (Std.ExtTreeMap.mem_toList_iff_getElem?_eq_some.mp member)

variable {inst : AppInstance}

theorem instance_validate {foreground : Option AppId} {id : AppId} (sound : inst.Sound foreground id) :
    inst.validate = .ok () := by
  have token : inst.token.validate = .ok () := by
    simp only [AppToken.validate, sound.generation, sound.lease, if_false]
  have held := sound.held
  by_cases shown : inst.state = .foreground
  · simp_all [AppInstance.validate, bind, Except.bind, pure, Except.pure]
  · simp_all [AppInstance.validate, bind, Except.bind, pure, Except.pure]

/-- Once the foreground application is behind the loop, nothing changes any more. -/
theorem validateApps_rest (foreground : Option AppId) (leases : List Nat) :
    ∀ entries : List (AppId × AppInstance),
      (∀ entry ∈ entries, entry.2.Sound foreground entry.1 ∧ foreground ≠ some entry.1) →
      validateApps entries foreground leases = .ok foreground
  | [], _ => rfl
  | (id, inst) :: rest, sound => by
    have first := sound (id, inst) (by simp)
    obtain rfl : inst.token.appId = id := first.1.keyed
    have shown : inst.state ≠ .foreground := fun shown => first.2 (first.1.pointed.mp shown)
    have none : inst.token.leaseId = none := first.1.held.mpr shown
    have later := validateApps_rest foreground leases rest fun entry member => sound entry (by simp [member])
    simp [validateApps, instance_validate first.1, shown, none, later,
      bind, Except.bind]

/-- The loop finds the foreground application among entries with distinct keys. -/
theorem validateApps_ok (foreground : Option AppId) :
    ∀ entries : List (AppId × AppInstance),
      (∀ entry ∈ entries, entry.2.Sound foreground entry.1) →
      (entries.Pairwise fun a b => a.1 ≠ b.1) →
      validateApps entries none [] =
        .ok (if ∃ entry ∈ entries, foreground = some entry.1 then foreground else none)
  | [], _, _ => by simp [validateApps]
  | (id, inst) :: rest, sound, distinct => by
    have first := sound (id, inst) (by simp)
    obtain rfl : inst.token.appId = id := first.keyed
    have tail : ∀ entry ∈ rest, entry.2.Sound foreground entry.1 := fun entry member =>
      sound entry (by simp [member])
    have apart := List.pairwise_cons.mp distinct
    by_cases shown : inst.state = .foreground
    · have here : foreground = some inst.token.appId := first.pointed.mp shown
      obtain ⟨lease, held⟩ : ∃ lease, inst.token.leaseId = some lease :=
        Option.ne_none_iff_exists'.mp fun none => first.held.mp none shown
      have later := validateApps_rest foreground [lease] rest fun entry member =>
        ⟨tail entry member, fun same => apart.1 entry member (by simpa [here] using same)⟩
      rw [here] at later
      simp [validateApps, instance_validate first, shown, held, later, here, bind, Except.bind]
    · have none : inst.token.leaseId = none := first.held.mpr shown
      have elsewhere : foreground ≠ some inst.token.appId := fun same => shown (first.pointed.mpr same)
      have later := validateApps_ok foreground rest tail apart.2
      have found : (∃ entry ∈ (inst.token.appId, inst) :: rest, foreground = some entry.1) ↔
          ∃ entry ∈ rest, foreground = some entry.1 := by simp [elsewhere]
      simp only [found]
      simp [validateApps, instance_validate first, shown, none, later, bind, Except.bind]

theorem SupervisorState.Sound.validate {s : SupervisorState} (sound : s.Sound) : s.validate = .ok () := by
  have entries := validateApps_ok s.foregroundApp s.apps.toList
    (fun entry member =>
      sound.instances entry.1 entry.2 (Std.ExtTreeMap.mem_toList_iff_getElem?_eq_some.mp member))
    (Std.ExtTreeMap.distinct_keys_toList.imp fun apart same => apart (by simp [same]))
  have found : (if ∃ entry ∈ s.apps.toList, s.foregroundApp = some entry.1 then s.foregroundApp else none) =
      s.foregroundApp := by
    cases pointer : s.foregroundApp with
    | none => simp
    | some id =>
      obtain ⟨inst, lookup⟩ := sound.pointer id pointer
      have member := Std.ExtTreeMap.mem_toList_iff_getElem?_eq_some.mpr lookup
      exact if_pos ⟨(id, inst), member, rfl⟩
  rw [found] at entries
  have awake : s.domain ≠ .managed → s.sleeping = false := fun leaves =>
    Bool.eq_false_iff.mpr fun asleep => leaves (sound.asleep asleep).1
  have dark : ¬ (s.sleeping = true ∧ s.foregroundApp.isSome = true) := fun both => by
    simp [(sound.asleep both.1).2] at both
  have quiet : ¬ (s.domain = .stock ∧ anyRunning s.apps = true) := fun both => by
    simp [(anyRunning_eq_false s.apps).mpr (sound.settled both.1)] at both
  by_cases managed : s.domain = .managed
  · simp [SupervisorState.validate, entries, dark, managed, bind, Except.bind, pure, Except.pure]
  · have nobody := sound.owned managed
    simp [SupervisorState.validate, entries, awake managed, quiet, managed, nobody,
      bind, Except.bind, pure, Except.pure]

theorem default_sound : (default : SupervisorState).Sound := by
  refine ⟨fun id inst lookup => ?_, fun id pointer => ?_, by simp [default], by simp [default], fun _ id inst lookup => ?_,
    by simp [default]⟩
  · simp [default] at lookup
  · simp [default] at pointer
  · simp [default] at lookup

section Preservation
variable {s t : SupervisorState}

/-- A record replaced by a sound one, with the foreground pointer that suits it,
    leaves the other records sound. -/
theorem SupervisorState.Sound.replace (sound : s.Sound) {appId : AppId} (apps : t.apps = s.apps.insert appId inst)
    (domain : t.domain = s.domain) (sleeping : t.sleeping = s.sleeping) (revision : t.stateRevision ≤ u64Max)
    (fits : inst.Sound t.foregroundApp appId)
    (others : ∀ id, id ≠ appId → (t.foregroundApp = some id ↔ s.foregroundApp = some id))
    (shown : t.foregroundApp ≠ none → s.domain = .managed ∧ s.sleeping = false)
    (ended : s.domain = .stock → inst.state.isTerminal = true) : t.Sound := by
  have lookups : ∀ id : AppId, t.apps[id]? = if id = appId then some inst else s.apps[id]? := by
    intro id
    by_cases same : id = appId
    · simp [apps, same]
    · simp [apps, same, Std.ExtTreeMap.getElem?_insert, Ne.symm same]
  refine ⟨fun id found lookup => ?_, fun id pointer => ?_, fun asleep => ?_, fun leaves => ?_,
    fun stock id found lookup => ?_, revision⟩
  · rw [lookups] at lookup
    by_cases same : id = appId
    · rw [if_pos same] at lookup
      cases lookup
      rw [same]
      exact fits
    · rw [if_neg same] at lookup
      have before := sound.instances id found lookup
      exact ⟨before.keyed, before.generation, before.lease, before.held, before.pointed.trans (others id same).symm⟩
  · by_cases same : id = appId
    · exact ⟨inst, by rw [lookups, if_pos same]⟩
    · obtain ⟨found, lookup⟩ := sound.pointer id ((others id same).mp pointer)
      exact ⟨found, by rw [lookups, if_neg same, lookup]⟩
  · rw [sleeping] at asleep
    refine ⟨domain.trans (sound.asleep asleep).1, ?_⟩
    by_contra pointer
    simp [(shown pointer).2] at asleep
  · by_contra pointer
    exact leaves (domain.trans (shown pointer).1)
  · rw [lookups] at lookup
    by_cases same : id = appId
    · rw [if_pos same] at lookup
      cases lookup
      exact ended (domain.symm.trans stock)
    · rw [if_neg same] at lookup
      exact sound.settled (domain.symm.trans stock) id found lookup

theorem without_iff {appId id : AppId} (other : id ≠ appId) :
    s.without appId = some id ↔ s.foregroundApp = some id := by
  unfold SupervisorState.without
  by_cases shown : s.foregroundApp = some appId
  · simp [shown, other.symm]
  · simp [shown]

theorem without_ne (appId : AppId) : s.without appId ≠ some appId := by
  unfold SupervisorState.without
  by_cases shown : s.foregroundApp = some appId
  · simp [shown]
  · simp [shown]

theorem SupervisorState.Sound.shown (sound : s.Sound) (pointer : s.foregroundApp ≠ none) :
    s.domain = .managed ∧ s.sleeping = false := by
  refine ⟨by_contra fun leaves => pointer (sound.owned leaves), ?_⟩
  cases asleep : s.sleeping with
  | false => rfl
  | true => exact absurd (sound.asleep asleep).2 pointer

/-- The common end of the operations that take an application's lease away. -/
theorem SupervisorState.Sound.release (sound : s.Sound) {appId : AppId} {inst replaced : AppInstance}
    (lookup : s.apps[appId]? = some inst) (live : inst.state.isTerminal = false)
    (token : replaced.token = { inst.token with leaseId := none }) (state : replaced.state ≠ .foreground)
    (apps : t.apps = s.apps.insert appId replaced) (domain : t.domain = s.domain)
    (sleeping : t.sleeping = s.sleeping) (revision : t.stateRevision ≤ u64Max)
    (pointer : t.foregroundApp = s.without appId) : t.Sound := by
  have before := sound.instances appId inst lookup
  refine sound.replace apps domain sleeping revision ?_ (fun id other => pointer ▸ without_iff other) ?_ ?_
  · refine ⟨?_, ?_, ?_, ?_, ?_⟩
    · rw [token]; exact before.keyed
    · rw [token]; exact before.generation
    · simp [token]
    · simp [token, state]
    · simp [state, pointer, without_ne]
  · intro held
    refine sound.shown fun nobody => held ?_
    simp [pointer, SupervisorState.without, nobody]
  · intro stock
    simp [sound.settled stock appId inst lookup] at live

theorem withdraw_sound {foreground : Option AppId} {id : AppId} (sound : inst.Sound foreground id) :
    inst.withdraw.Sound none id := by
  refine ⟨sound.keyed, sound.generation, ?_, ?_, ?_⟩
  · simp [AppInstance.withdraw]
  · by_cases shown : inst.state = .foreground <;> simp [AppInstance.withdraw, shown]
  · by_cases shown : inst.state = .foreground <;> simp [AppInstance.withdraw, shown]

theorem withdraw_terminal (ended : inst.state.isTerminal = true) : inst.withdraw.state.isTerminal = true := by
  have hidden : inst.state ≠ .foreground := by
    intro shown
    simp [shown, AppInstanceState.isTerminal] at ended
  simpa [AppInstance.withdraw, hidden] using ended

theorem depart_sound (sound : s.Sound) {next : SystemDomainState} (edge : domainEdge s.domain next = true)
    (quiet : next = .stock → anyRunning s.apps = false) (room : s.stateRevision + 1 ≤ u64Max) :
    ({ s.depart next with domain := next } : SupervisorState).advance.Sound := by
  by_cases managed : next = .managed
  · -- Only a system that was entering becomes managed, and it showed nothing.
    have entering : s.domain ≠ .managed := by
      intro inside
      simp [inside, managed, domainEdge] at edge
    have nobody := sound.owned entering
    refine ⟨fun id inst lookup => ?_, fun id pointer => ?_, fun asleep => ?_, fun leaves => ?_,
      fun stock => ?_, by simpa using room⟩
    · simp only [SupervisorState.advance, SupervisorState.depart, managed, ne_eq, not_true, if_false] at lookup ⊢
      exact sound.instances id inst lookup
    · simp [SupervisorState.advance, SupervisorState.depart, managed, nobody] at pointer
    · simp only [SupervisorState.advance, SupervisorState.depart, managed, ne_eq, not_true, if_false] at asleep
      exact absurd (sound.asleep asleep).1 entering
    · exact absurd managed leaves
    · exact absurd (managed.symm.trans stock) (by decide)
  · have lookups : ∀ (id : AppId) (inst : AppInstance),
        (s.apps.map fun _ inst => inst.withdraw)[id]? = some inst →
        ∃ found, s.apps[id]? = some found ∧ found.withdraw = inst := by
      intro id inst lookup
      rw [Std.ExtTreeMap.getElem?_map] at lookup
      exact Option.map_eq_some_iff.mp lookup
    simp only [SupervisorState.depart, managed, ne_eq, not_false_eq_true, if_true]
    refine ⟨fun id inst lookup => ?_, fun id pointer => ?_, fun asleep => ?_, fun leaves => rfl,
      fun stock id inst lookup => ?_, room⟩
    · obtain ⟨found, before, rfl⟩ := lookups id inst lookup
      exact withdraw_sound (sound.instances id found before)
    · simp [SupervisorState.advance] at pointer
    · simp [SupervisorState.advance] at asleep
    · obtain ⟨found, before, rfl⟩ := lookups id inst lookup
      exact withdraw_terminal ((anyRunning_eq_false s.apps).mp (quiet stock) id found before)

/-- One successful operation keeps the state sound. -/
theorem Succeeds.sound {op : Operation} {token : Option AppToken} (succeeds : Succeeds s op token t)
    (sound : s.Sound) : t.Sound := by
  have room := succeeds.room
  cases succeeds.step with
  | transitionDomain next edge quiet => exact depart_sound sound edge quiet room
  | setSleeping sleeping managed clear =>
    exact ⟨sound.instances, sound.pointer, fun asleep => ⟨managed, clear asleep⟩, sound.owned, sound.settled, room⟩
  | startApp appId generation pid managed awake positive replaces =>
    have hidden : s.foregroundApp ≠ some appId := by
      intro shown
      obtain ⟨previous, lookup⟩ := sound.pointer appId shown
      have before := (sound.instances appId previous lookup).pointed.mpr shown
      simpa [before, AppInstanceState.isTerminal] using (replaces previous lookup).2
    refine sound.replace rfl rfl rfl room ?_ (fun id other => Iff.rfl) sound.shown ?_
    · exact ⟨rfl, positive, by simp, by simp, by simpa using hidden⟩
    · intro stock
      simp [managed] at stock
  | grantForeground appId generation epoch lease inst lookup same managed awake clear ready fresh positive =>
    have before := sound.instances appId inst lookup
    refine sound.replace rfl rfl rfl room ?_ ?_ (fun _ => ⟨managed, awake⟩) ?_
    · exact ⟨before.keyed, before.generation, by simpa using positive, by simp, by simp [SupervisorState.advance]⟩
    · intro id other
      simp [SupervisorState.advance, clear, other.symm]
    · intro stock
      simp [managed] at stock
  | markBackgroundReady appId generation title subtitle inst lookup same ready =>
    have before := sound.instances appId inst lookup
    have hidden : s.foregroundApp ≠ some appId := fun shown => by simpa [ready] using before.pointed.mpr shown
    refine sound.replace rfl rfl rfl room ?_ (fun id other => Iff.rfl) sound.shown ?_
    · exact ⟨before.keyed, before.generation, before.lease, by simpa [ready] using before.held, by simpa using hidden⟩
    · intro stock
      simpa [ready, AppInstanceState.isTerminal] using sound.settled stock appId inst lookup
  | enterBackground appId generation epoch inst lookup same shown current =>
    have here := (sound.instances appId inst lookup).pointed.mp shown
    exact sound.release lookup (by simp [shown, AppInstanceState.isTerminal]) rfl (by simp) rfl rfl rfl room
      (by simp [SupervisorState.advance, SupervisorState.without, here])
  | beginStop appId generation inst lookup same live running =>
    exact sound.release lookup live rfl (by simp) rfl rfl rfl room rfl
  | finishApp appId generation crashed error inst lookup same live =>
    exact sound.release lookup live rfl (by cases crashed <;> simp) rfl rfl rfl room rfl
  | markUnresponsive appId generation error inst lookup same live responsive =>
    exact sound.release lookup live rfl (by simp) rfl rfl rfl room rfl

end Preservation

/-! ## Runs -/

theorem step_revision {s t : SupervisorState} {op : Operation} {token : Option AppToken} (step : Step s op token t) :
    t.stateRevision = s.stateRevision + 1 := by
  cases step with
  | transitionDomain next edge quiet => simp
  | _ => rfl

theorem call_sound {s : SupervisorState} (sound : s.Sound) (op : Operation) : (op.call s).2.Sound := by
  rcases call_cases sound.bounded op with ⟨error, fails⟩ | ⟨token, t, succeeds, did⟩
  · rw [fails]; exact sound
  · rw [succeeds]; exact did.sound sound

theorem runAll_sound (ops : List Operation) : ∀ s : SupervisorState, s.Sound → (runAll s ops).Sound := by
  induction ops with
  | nil => exact fun s sound => sound
  | cons op rest ih => exact fun s sound => ih _ (call_sound sound op)

/-- Every state reached from the default one is valid; there a failed operation
    changes nothing, and a successful one raises the revision by exactly one. -/
theorem reached_states_valid (ops : List Operation) :
    (runAll default ops).validate = .ok () ∧
    ∀ op : Operation,
      (∀ error, (op.call (runAll default ops)).1 = .error error →
        (op.call (runAll default ops)).2 = runAll default ops) ∧
      ∀ token, (op.call (runAll default ops)).1 = .ok token →
        (op.call (runAll default ops)).2.stateRevision = (runAll default ops).stateRevision + 1 := by
  have sound := runAll_sound ops default default_sound
  refine ⟨sound.validate, fun op => ?_⟩
  rcases call_cases sound.bounded op with ⟨error, fails⟩ | ⟨token, t, succeeds, did⟩
  · rw [fails]
    exact ⟨fun _ _ => rfl, fun _ ok => by simp at ok⟩
  · rw [succeeds]
    exact ⟨fun _ err => by simp at err, fun _ _ => step_revision did.step⟩

end Remagic.Supervisor
