import Remagic.SupervisorFences

/-!
# The way back to the stock system

From every reachable state with room left in its revision the device can be given
back: each running application is finished where it is, and then the domain is
left, through recovery where it has no other edge.
-/

namespace Remagic.Supervisor
open Fallible

/-! ## Operations that succeed -/

section
variable {s : SupervisorState} (room : s.stateRevision < u64Max)
include room

theorem finishApp_succeeds {appId : AppId} {inst : AppInstance} (lookup : s.apps[appId]? = some inst)
    (live : inst.state.isTerminal = false) (crashed : Bool) (error : Option String) :
    ∃ token, ((Operation.finishApp appId inst.token.generation crashed error).call s).1 = .ok token := by
  show Ends (some <$> finishApp appId inst.token.generation crashed error) s fun result _ => ∃ token, result = .ok token
  rw [map_eq_pure_bind]
  unfold finishApp ensureRevisionCapacity currentInstance bumpRevision
  simp only [bind_assoc]
  refine ends_get_bind (ends_failIf (fun full => by omega) fun _ => ends_get_bind ?_)
  simp only [lookup, bind_assoc, pure_bind]
  refine ends_failIf (fun old => absurd rfl old) fun _ => ends_failIf (fun ended => by simp [live] at ended) fun _ => ?_
  refine ends_modify_bind (ends_modify_bind (ends_get_bind (ends_failIf (fun full => ?_) fun _ => ends_modify_bind ?_)))
  · simp only [gt_iff_lt] at full
    omega
  · exact ⟨_, rfl⟩

theorem transitionDomain_succeeds {next : SystemDomainState} (edge : domainEdge s.domain next = true)
    (quiet : next = .stock → anyRunning s.apps = false) :
    ∃ token, ((Operation.transitionDomain next).call s).1 = .ok token := by
  show Ends (do transitionDomain next; pure none) s fun result _ => ∃ token, result = .ok token
  unfold transitionDomain ensureRevisionCapacity bumpRevision
  simp only [bind_assoc]
  refine ends_get_bind (ends_failIf (fun full => by omega) fun _ => ends_get_bind ?_)
  refine ends_failIf (fun none => by simp [edge] at none) fun _ => ?_
  refine ends_failIf (fun runs => by simp [quiet runs.1] at runs) fun _ => ?_
  by_cases leaves : next ≠ .managed
  · simp only [leaves, ne_eq, not_false_eq_true, if_true, bind_assoc]
    refine ends_modify_bind (ends_modify_bind (ends_get_bind (ends_failIf (fun full => ?_) fun _ => ends_modify_bind ?_)))
    · simp only [gt_iff_lt] at full
      omega
    · exact ⟨_, rfl⟩
  · simp only [leaves, if_false, bind_assoc]
    refine ends_modify_bind (ends_get_bind (ends_failIf (fun full => ?_) fun _ => ends_modify_bind ?_))
    · simp only [gt_iff_lt] at full
      omega
    · exact ⟨_, rfl⟩

end

section
variable {s : SupervisorState}

theorem call_succeeds {op : Operation} (sound : s.Sound) (succeeds : ∃ token, (op.call s).1 = .ok token) :
    ∃ token, Succeeds s op token (op.call s).2 := by
  obtain ⟨token, succeeds⟩ := succeeds
  rcases call_cases sound.bounded op with ⟨error, fails⟩ | ⟨answer, t, ends, did⟩
  · rw [fails] at succeeds
    cases succeeds
  · rw [ends]
    exact ⟨answer, did⟩

/-- The application ends, and no other is changed. -/
theorem finish_step {t : SupervisorState} {appId : AppId} {generation : Nat} {crashed : Bool} {error : Option String}
    {token : Option AppToken} (step : Step s (.finishApp appId generation crashed error) token t) :
    t.domain = s.domain ∧ ∀ (id : AppId) (found : AppInstance), t.apps[id]? = some found →
      found.state.isTerminal = false → id ≠ appId ∧ s.apps[id]? = some found := by
  cases step with
  | finishApp _ _ _ _ before lookup same live =>
    refine ⟨rfl, fun id found after running => ?_⟩
    simp only [SupervisorState.advance, SupervisorState.record] at after
    by_cases same : id = appId
    · rw [same, Std.ExtTreeMap.getElem?_insert_self] at after
      cases after
      cases crashed <;> cases running
    · rw [Std.ExtTreeMap.getElem?_insert, if_neg (by simpa using Ne.symm same)] at after
      exact ⟨same, after⟩

/-- A domain is left without an application starting to run. -/
theorem leave_step {t : SupervisorState} {next : SystemDomainState} {token : Option AppToken}
    (step : Step s (.transitionDomain next) token t) (leaves : next ≠ .managed) (quiet : anyRunning s.apps = false) :
    t.domain = next ∧ anyRunning t.apps = false := by
  cases step with
  | transitionDomain _ edge _ =>
    refine ⟨rfl, ?_⟩
    simp only [SupervisorState.advance, SupervisorState.depart, leaves, ne_eq, not_false_eq_true, if_true]
    rw [anyRunning_eq_false]
    intro id inst lookup
    rw [Std.ExtTreeMap.getElem?_map] at lookup
    obtain ⟨before, found, rfl⟩ := Option.map_eq_some_iff.mp lookup
    exact withdraw_terminal ((anyRunning_eq_false s.apps).mp quiet id before found)

end

/-! ## The plan -/

/-- The running applications, all listed, are finished one after the other. -/
theorem all_finished (ids : List AppId) : ∀ s : SupervisorState, s.Sound →
    (∀ (id : AppId) (inst : AppInstance), s.apps[id]? = some inst → inst.state.isTerminal = false → id ∈ ids) →
    s.stateRevision + ids.length ≤ u64Max →
    ∃ plan, (runAll s plan).Sound ∧ (runAll s plan).domain = s.domain ∧ anyRunning (runAll s plan).apps = false ∧
      (runAll s plan).stateRevision ≤ s.stateRevision + ids.length := by
  induction ids with
  | nil =>
    intro s sound listed room
    refine ⟨[], sound, rfl, (anyRunning_eq_false s.apps).mpr fun id inst lookup => ?_, le_rfl⟩
    by_contra running
    exact absurd (listed id inst lookup (by simpa using running)) List.not_mem_nil
  | cons id rest ih =>
    intro s sound listed room
    rw [List.length_cons] at room
    by_cases running : ∃ inst, s.apps[id]? = some inst ∧ inst.state.isTerminal = false
    · obtain ⟨inst, lookup, live⟩ := running
      obtain ⟨token, did⟩ := call_succeeds sound (finishApp_succeeds (by omega) lookup live false none)
      obtain ⟨domain, others⟩ := finish_step did.step
      have revision := step_revision did.step
      have fewer : ∀ (other : AppId) (found : AppInstance),
          ((Operation.finishApp id inst.token.generation false none).call s).2.apps[other]? = some found →
          found.state.isTerminal = false → other ∈ rest := by
        intro other found after runs
        obtain ⟨apart, before⟩ := others other found after runs
        exact (List.mem_cons.mp (listed other found before runs)).resolve_left apart
      obtain ⟨plan, kept, same, quiet, count⟩ := ih _ (did.sound sound) fewer (by omega)
      refine ⟨.finishApp id inst.token.generation false none :: plan, kept, same.trans domain, quiet, count.trans ?_⟩
      rw [List.length_cons]
      omega
    · have fewer : ∀ (other : AppId) (found : AppInstance), s.apps[other]? = some found →
          found.state.isTerminal = false → other ∈ rest := by
        intro other found lookup runs
        refine (List.mem_cons.mp (listed other found lookup runs)).resolve_left ?_
        rintro rfl
        exact running ⟨found, lookup, runs⟩
      obtain ⟨plan, kept, same, quiet, count⟩ := ih s sound fewer (by omega)
      refine ⟨plan, kept, same, quiet, count.trans ?_⟩
      rw [List.length_cons]
      omega

/-- A quiet system goes to the stock domain, through recovery unless it is there
    already or one edge away. -/
theorem stock_entered {s : SupervisorState} (sound : s.Sound) (quiet : anyRunning s.apps = false)
    (room : s.stateRevision + 2 ≤ u64Max) :
    ∃ plan, (runAll s plan).Sound ∧ (runAll s plan).domain = .stock := by
  have direct : ∀ {t : SupervisorState}, t.Sound → anyRunning t.apps = false → t.stateRevision < u64Max →
      domainEdge t.domain .stock = true → ∃ plan, (runAll t plan).Sound ∧ (runAll t plan).domain = .stock := by
    intro t sound quiet room edge
    obtain ⟨token, did⟩ := call_succeeds sound (transitionDomain_succeeds room edge fun _ => quiet)
    exact ⟨[.transitionDomain .stock], did.sound sound, (leave_step did.step (by decide) quiet).1⟩
  have recovering : domainEdge s.domain .recovering = true →
      ∃ plan, (runAll s plan).Sound ∧ (runAll s plan).domain = .stock := by
    intro edge
    obtain ⟨token, did⟩ := call_succeeds sound (transitionDomain_succeeds (by omega) edge fun _ => quiet)
    obtain ⟨domain, quiet'⟩ := leave_step did.step (by decide) quiet
    have revision := step_revision did.step
    obtain ⟨plan, kept, entered⟩ := direct (did.sound sound) quiet' (by omega) (by rw [domain]; rfl)
    exact ⟨.transitionDomain .recovering :: plan, kept, entered⟩
  cases domain : s.domain with
  | stock => exact ⟨[], sound, domain⟩
  | enteringManaged => exact recovering (by rw [domain]; rfl)
  | managed => exact recovering (by rw [domain]; rfl)
  | leavingManaged => exact direct sound quiet (by omega) (by rw [domain]; rfl)
  | recovering => exact direct sound quiet (by omega) (by rw [domain]; rfl)

/-- No reachable state is a dead end: as long as the revision has room for one step for
    each application and two more, some operations lead to the stock domain with every
    application ended and no lease in the foreground. -/
theorem stock_reachable (ops : List Operation)
    (headroom : (runAll default ops).stateRevision + (runAll default ops).apps.size + 2 ≤ u64Max) :
    ∃ plan, (runAll default (ops ++ plan)).domain = .stock ∧ (runAll default (ops ++ plan)).foregroundApp = none ∧
      ∀ (id : AppId) (inst : AppInstance), (runAll default (ops ++ plan)).apps[id]? = some inst →
        inst.state.isTerminal = true ∧ inst.token.leaseId = none := by
  have sound := runAll_sound ops default default_sound
  have listed : ∀ (id : AppId) (inst : AppInstance), (runAll default ops).apps[id]? = some inst →
      inst.state.isTerminal = false → id ∈ (runAll default ops).apps.keys := by
    intro id inst lookup _
    exact Std.ExtTreeMap.mem_keys.mpr (Std.ExtTreeMap.mem_iff_isSome_getElem?.mpr (by rw [lookup]; rfl))
  have count : (runAll default ops).apps.keys.length = (runAll default ops).apps.size := Std.ExtTreeMap.length_keys
  obtain ⟨first, kept, _, quiet, room⟩ := all_finished _ _ sound listed (by omega)
  obtain ⟨second, sound', domain⟩ := stock_entered kept quiet (by omega)
  have reached : runAll default (ops ++ (first ++ second)) = runAll (runAll (runAll default ops) first) second := by
    rw [runAll_append, runAll_append]
  refine ⟨first ++ second, by rw [reached, domain], ?_, fun id inst lookup => ?_⟩
  · rw [reached]
    exact sound'.owned (by rw [domain]; decide)
  · rw [reached] at lookup
    have ended := sound'.settled domain id inst lookup
    refine ⟨ended, (sound'.instances id inst lookup).held.mpr ?_⟩
    intro shown
    rw [shown] at ended
    cases ended

namespace Sample

def paper : AppId := ⟨"paper", by decide⟩

/-- An application is shown. -/
def shown : List Operation :=
  [.transitionDomain .enteringManaged, .transitionDomain .managed, .startApp paper 1 none, .grantForeground paper 1 1 1]

end Sample

open Sample in
theorem stock_reachable_shown :
    ∃ plan, (runAll default (shown ++ plan)).domain = .stock ∧ (runAll default (shown ++ plan)).foregroundApp = none ∧
      ∀ (id : AppId) (inst : AppInstance), (runAll default (shown ++ plan)).apps[id]? = some inst →
        inst.state.isTerminal = true ∧ inst.token.leaseId = none :=
  stock_reachable shown (by decide)

end Remagic.Supervisor
