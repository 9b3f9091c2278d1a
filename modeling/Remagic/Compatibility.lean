import Remagic.ManagerState
import Remagic.SupervisorSafety

/-!
# The v1 state and the v2 state

A persisted v1 state is read as a v2 snapshot, and a v2 snapshot is shown to whoever
still speaks v1. A snapshot read from a v1 state has at most one application in it.
-/

namespace Remagic.Daemon
open Supervisor

/-- The v2 domain of each v1 domain. -/
def DomainState.boundary : DomainState → SystemDomainState
  | .system => .stock
  | .enteringManaged => .enteringManaged
  | .restoringSystem => .leavingManaged
  | .recovering => .recovering
  | _ => .managed

/-- The application that the v1 domain names, with the state of its v2 record. -/
def DomainState.application : DomainState → Option (AppId × AppInstanceState)
  | .launching app => some (app, .starting)
  | .foreground app => some (app, .foreground)
  | .parking app => some (app, .stopping)
  | _ => none

end Remagic.Daemon

namespace Remagic.Supervisor
open Daemon

/-- The record with its sentinel values: a lease where the application is shown, and nowhere else. -/
def AppInstance.legacy (appId : AppId) (state : AppInstanceState) : AppInstance :=
  let foreground := state = .foreground
  { token :=
      { appId
        generation := 1
        foregroundEpoch := if foreground then 1 else 0
        leaseId := if foreground then some 1 else none }
    state
    pid := none
    title := ""
    subtitle := ""
    lastError := none }

/-- `SupervisorState::from` of a v1 state. -/
def SupervisorState.ofManager (legacy : ManagerState) : SupervisorState :=
  let state : SupervisorState :=
    { domain := legacy.domain.boundary
      sleeping := legacy.domain = .sleeping
      foregroundApp := none
      lastApp := legacy.lastApp
      apps := ∅
      stateRevision := legacy.sequence }
  match legacy.domain.application with
  | none => state
  | some (appId, instanceState) =>
    { state with
      apps := state.apps.insert appId (.legacy appId instanceState)
      foregroundApp := if instanceState = .foreground then some appId else state.foregroundApp }

/-- The record that the projection shows: the one that the foreground pointer names, else the
    first one that starts or stops. -/
def SupervisorState.active (state : SupervisorState) : Option AppInstance :=
  (state.foregroundApp.bind fun id => state.apps[id]?).or
    (state.apps.values.find? fun inst => inst.state = .starting || inst.state = .stopping)

end Remagic.Supervisor

namespace Remagic.Daemon
open Supervisor

/-- The v1 domain of a managed, waking snapshot. -/
def DomainState.ofActive : Option AppInstance → DomainState
  | none => .manager
  | some inst =>
    match inst.state with
    | .starting => .launching inst.token.appId
    | .foreground => .foreground inst.token.appId
    | .stopping => .parking inst.token.appId
    | _ => .manager

/-- `ManagerState::from` of a v2 state. -/
def ManagerState.ofSupervisor (state : SupervisorState) : ManagerState :=
  { domain :=
      match state.domain with
      | .stock => .system
      | .enteringManaged => .enteringManaged
      | .leavingManaged => .restoringSystem
      | .recovering => .recovering
      | .managed => if state.sleeping then .sleeping else .ofActive state.active
    lastApp := state.lastApp
    sequence := state.stateRevision }

/-! ## The snapshot is sound -/

variable {state : AppInstanceState}

theorem legacy_sound {foreground : Option AppId} (app : AppId) (pointed : state = .foreground ↔ foreground = some app) :
    (AppInstance.legacy app state).Sound foreground app := by
  constructor
  · rfl
  · simp [AppInstance.legacy]
  · by_cases shown : state = .foreground <;> simp [AppInstance.legacy, shown]
  · by_cases shown : state = .foreground <;> simp [AppInstance.legacy, shown]
  · exact pointed

/-- A managed snapshot with one application in it, which the pointer names if it is shown. -/
theorem single_sound (app : AppId) (state : AppInstanceState) (last : Option AppId) (revision : Nat)
    (bounded : revision ≤ u64Max) :
    SupervisorState.Sound
      { domain := .managed
        sleeping := false
        foregroundApp := if state = .foreground then some app else none
        lastApp := last
        apps := (∅ : Std.ExtTreeMap AppId AppInstance compare).insert app (.legacy app state)
        stateRevision := revision } := by
  have lookup : ∀ id : AppId, ((∅ : Std.ExtTreeMap AppId AppInstance compare).insert app (.legacy app state))[id]? =
      if app = id then some (.legacy app state) else none := by
    intro id
    rw [Std.ExtTreeMap.getElem?_insert]
    simp
  constructor
  · intro id inst found
    rw [lookup] at found
    by_cases here : app = id
    · subst here
      rw [if_pos rfl] at found
      cases found
      apply legacy_sound
      by_cases shown : state = .foreground <;> simp [shown]
    · rw [if_neg here] at found
      cases found
  · intro id pointer
    by_cases shown : state = .foreground
    · simp only [shown, if_true, Option.some.injEq] at pointer
      exact ⟨.legacy app state, by rw [lookup, if_pos pointer]⟩
    · simp [shown] at pointer
  · intro asleep
    simp at asleep
  · intro outside
    simp at outside
  · intro stock
    simp at stock
  · exact bounded

/-- A snapshot without applications. -/
theorem empty_sound {domain : SystemDomainState} {sleeping : Bool} (asleep : sleeping = true → domain = .managed)
    (last : Option AppId) (revision : Nat) (bounded : revision ≤ u64Max) :
    SupervisorState.Sound ⟨domain, sleeping, none, last, ∅, revision⟩ := by
  constructor
  · intro id inst found
    simp at found
  · intro id pointer
    cases pointer
  · exact fun sleeps => ⟨asleep sleeps, rfl⟩
  · exact fun _ => rfl
  · intro _ id inst found
    simp at found
  · exact bounded

theorem ofManager_sound (legacy : ManagerState) (bounded : legacy.sequence ≤ u64Max) :
    (SupervisorState.ofManager legacy).Sound := by
  obtain ⟨domain, last, sequence⟩ := legacy
  cases domain with
  | launching app => exact single_sound app .starting last sequence bounded
  | foreground app => exact single_sound app .foreground last sequence bounded
  | parking app => exact single_sound app .stopping last sequence bounded
  | system | enteringManaged | manager | restoringSystem | sleeping | recovering =>
    exact empty_sound (by simp [DomainState.boundary]) last sequence bounded

/-! ## The round trip -/

/-- What the projection finds of a single application that starts, is shown or stops. -/
theorem single_active (app : AppId) (domain : SystemDomainState) (last : Option AppId) (revision : Nat)
    (live : state = .starting ∨ state = .foreground ∨ state = .stopping) :
    SupervisorState.active
      ⟨domain, false, if state = .foreground then some app else none, last,
        (∅ : Std.ExtTreeMap AppId AppInstance compare).insert app (.legacy app state), revision⟩ =
      some (.legacy app state) := by
  have values : ((∅ : Std.ExtTreeMap AppId AppInstance compare).insert app (.legacy app state)).values =
      [.legacy app state] := rfl
  unfold SupervisorState.active
  rw [values]
  rcases live with rfl | rfl | rfl
  · rfl
  · simp
  · rfl

/-- The application that the v1 domain names is the one that the projection finds. -/
theorem single_projected (app : AppId) (last : Option AppId) (revision : Nat)
    (live : state = .starting ∨ state = .foreground ∨ state = .stopping) :
    ManagerState.ofSupervisor
      ⟨.managed, false, if state = .foreground then some app else none, last,
        (∅ : Std.ExtTreeMap AppId AppInstance compare).insert app (.legacy app state), revision⟩ =
      ⟨.ofActive (some (.legacy app state)), last, revision⟩ := by
  have active := single_active app .managed last revision live
  simp only [ManagerState.ofSupervisor, active, Bool.false_eq_true, if_false]

theorem round_trip (legacy : ManagerState) : ManagerState.ofSupervisor (.ofManager legacy) = legacy := by
  obtain ⟨domain, last, sequence⟩ := legacy
  cases domain with
  | launching app => exact single_projected app last sequence (.inl rfl)
  | foreground app => exact single_projected app last sequence (.inr (.inl rfl))
  | parking app => exact single_projected app last sequence (.inr (.inr rfl))
  | system | enteringManaged | manager | restoringSystem | sleeping | recovering => rfl

/-- A v1 state is read as a valid snapshot, which the projection takes back to it. The
    validation does not look at the revision, so it is not asked to be a `u64`. -/
theorem legacy_round_trip (legacy : ManagerState) :
    (SupervisorState.ofManager legacy).validate = .ok () ∧ ManagerState.ofSupervisor (.ofManager legacy) = legacy := by
  constructor
  · have sound := ofManager_sound { legacy with sequence := 0 } (Nat.zero_le _)
    have valid := sound.validate
    obtain ⟨domain, last, sequence⟩ := legacy
    cases domain <;> exact valid
  · exact round_trip legacy

end Remagic.Daemon
