import Mathlib.Data.Prod.Lex
import Mathlib.Order.WithBot
import Remagic.Runs
import Remagic.SupervisorSafety

/-!
# Foreground fences

The fence of an application is its generation and its foreground epoch, in that
order. No operation lowers it, and every grant of the foreground raises it, so no
fence is ever granted twice; what is presented with an older generation or epoch
fails.
-/

namespace Remagic.Supervisor

def AppToken.fence (token : AppToken) : ℕ ×ₗ ℕ := toLex (token.generation, token.foregroundEpoch)

/-- The fence of an application's record, below all fences while there is no record. -/
def SupervisorState.fence (s : SupervisorState) (id : AppId) : WithBot (ℕ ×ₗ ℕ) :=
  s.apps[id]?.elim ⊥ fun inst => inst.token.fence

variable {inst : AppInstance}

theorem fence_of {s : SupervisorState} {id : AppId} (lookup : s.apps[id]? = some inst) :
    s.fence id = inst.token.fence := by
  unfold SupervisorState.fence
  rw [lookup]
  rfl

section
variable {s t : SupervisorState} {op : Operation} {token : Option AppToken}

theorem fence_insert {appId : AppId} (apps : t.apps = s.apps.insert appId inst) (id : AppId) :
    t.fence id = if id = appId then ↑inst.token.fence else s.fence id := by
  unfold SupervisorState.fence
  rw [apps]
  by_cases same : id = appId
  · simp [same]
  · simp [same, Std.ExtTreeMap.getElem?_insert, Ne.symm same]

/-- A record replaced by one with a fence that is no older. -/
theorem fence_replaced {appId : AppId} (apps : t.apps = s.apps.insert appId inst)
    (newer : s.fence appId ≤ inst.token.fence) (id : AppId) : s.fence id ≤ t.fence id := by
  rw [fence_insert apps]
  split
  · rename_i same
    rw [same]
    exact newer
  · exact le_rfl

/-- An edit of a record that keeps its generation and its epoch. -/
theorem fence_edited {appId : AppId} {inst edited : AppInstance} (lookup : s.apps[appId]? = some inst)
    (apps : t.apps = s.apps.insert appId edited) (same : edited.token.fence = inst.token.fence) (id : AppId) :
    s.fence id ≤ t.fence id := by
  refine fence_replaced apps ?_ id
  rw [fence_of lookup, same]

theorem fence_depart (next domain : SystemDomainState) (id : AppId) :
    ({ s.depart next with domain := domain } : SupervisorState).advance.fence id = s.fence id := by
  by_cases managed : next = .managed
  · simp only [SupervisorState.depart, managed, ne_eq, not_true, if_false]
    rfl
  · simp only [SupervisorState.depart, managed, ne_eq, not_false_eq_true, if_true]
    unfold SupervisorState.fence
    show (s.apps.map fun _ inst => inst.withdraw)[id]?.elim _ _ = _
    rw [Std.ExtTreeMap.getElem?_map]
    cases s.apps[id]? <;> rfl

/-- No operation lowers a fence, that of a restarted application included. -/
theorem step_fence (step : Step s op token t) (id : AppId) : s.fence id ≤ t.fence id := by
  cases step with
  | transitionDomain next edge quiet => exact (fence_depart next next id).ge
  | setSleeping sleeping managed clear => exact le_rfl
  | startApp appId generation pid managed awake positive replaces =>
    refine fence_replaced rfl ?_ id
    cases lookup : s.apps[appId]? with
    | none =>
      have absent : s.fence appId = ⊥ := by
        unfold SupervisorState.fence
        rw [lookup]
        rfl
      rw [absent]
      exact bot_le
    | some previous =>
      obtain ⟨newer, _⟩ := replaces previous lookup
      rw [fence_of lookup]
      exact WithBot.coe_le_coe.mpr (Prod.Lex.toLex_le_toLex.mpr (.inl newer))
  | grantForeground appId generation epoch lease inst lookup same managed awake clear ready fresh positive =>
    refine fence_replaced rfl ?_ id
    rw [fence_of lookup]
    exact WithBot.coe_le_coe.mpr (Prod.Lex.toLex_le_toLex.mpr (.inr ⟨rfl, fresh.le⟩))
  | markBackgroundReady appId generation title subtitle inst lookup same ready =>
    refine fence_edited lookup rfl ?_ id
    rfl
  | enterBackground appId generation epoch inst lookup same shown current =>
    refine fence_edited lookup rfl ?_ id
    rfl
  | beginStop appId generation inst lookup same live running =>
    refine fence_edited lookup rfl ?_ id
    rfl
  | finishApp appId generation crashed error inst lookup same live =>
    refine fence_edited lookup rfl ?_ id
    rfl
  | markUnresponsive appId generation error inst lookup same live responsive =>
    refine fence_edited lookup rfl ?_ id
    rfl

end

/-! ## Grants -/

/-- The token of a grant of the foreground to the application. -/
def granted (id : AppId) (s : SupervisorState) (op : Operation) : Option AppToken :=
  match op, (op.call s).1 with
  | .grantForeground _ _ _ _, .ok token => token.filter fun token => token.appId = id
  | _, _ => none

/-- The tokens of the grants to the application in a run, in their order. -/
def grants (id : AppId) (s : SupervisorState) (ops : List Operation) : List AppToken :=
  Runs.answers (fun s op => (op.call s).2) (granted id) s ops

/-- A grant to the application took the step of a grant. -/
theorem granted_step {s : SupervisorState} (sound : s.Sound) {id : AppId} {op : Operation} {token : AppToken}
    (grant : granted id s op = some token) :
    s.fence id < token.fence ∧ (op.call s).2.fence id = token.fence := by
  unfold granted at grant
  rcases call_cases sound.bounded op with ⟨error, fails⟩ | ⟨answer, t, succeeds, did⟩
  · rw [fails] at grant
    cases op <;> cases grant
  · rw [succeeds] at grant ⊢
    cases did.step with
    | grantForeground appId generation epoch lease inst lookup same managed awake clear ready fresh positive =>
      obtain ⟨answered, mine⟩ := Option.filter_eq_some_iff.mp grant
      have keyed : token.appId = appId := by
        rw [← Option.some.inj answered]
        exact (sound.instances appId inst lookup).keyed
      obtain rfl : id = appId := (of_decide_eq_true mine).symm.trans keyed
      rw [← Option.some.inj answered]
      refine ⟨?_, ?_⟩
      · rw [fence_of lookup]
        exact WithBot.coe_lt_coe.mpr (Prod.Lex.toLex_lt_toLex.mpr (.inr ⟨rfl, fresh⟩))
      · rw [fence_insert (s := s) rfl, if_pos rfl]
    | _ => cases grant

/-! ## Stale presentations -/

/-- The application, generation and foreground epoch that an operation is presented with. -/
def Operation.presented : Operation → Option (AppId × Nat × Option Nat)
  | .transitionDomain _ | .setSleeping _ => none
  | .startApp appId generation _ => some (appId, generation, none)
  | .grantForeground appId generation epoch _ => some (appId, generation, some epoch)
  | .markBackgroundReady appId generation _ _ => some (appId, generation, none)
  | .enterBackground appId generation epoch => some (appId, generation, some epoch)
  | .beginStop appId generation => some (appId, generation, none)
  | .finishApp appId generation _ _ => some (appId, generation, none)
  | .markUnresponsive appId generation _ => some (appId, generation, none)

/-- A successful operation was presented with nothing older than the record. -/
theorem step_current {s t : SupervisorState} {op : Operation} {token : Option AppToken} (step : Step s op token t)
    {id : AppId} {generation : Nat} {epoch : Option Nat} (presented : op.presented = some (id, generation, epoch))
    (lookup : s.apps[id]? = some inst) :
    inst.token.generation ≤ generation ∧ ∀ e ∈ epoch, inst.token.foregroundEpoch ≤ e := by
  cases step with
  | transitionDomain next edge quiet => cases presented
  | setSleeping sleeping managed clear => cases presented
  | startApp appId generation pid managed awake positive replaces =>
    cases presented
    exact ⟨(replaces inst lookup).1.le, nofun⟩
  | grantForeground appId generation epoch lease found lookup' same managed awake clear ready fresh positive =>
    cases presented
    cases lookup'.symm.trans lookup
    refine ⟨same.le, fun e member => ?_⟩
    cases member
    exact fresh.le
  | enterBackground appId generation epoch found lookup' same shown current =>
    cases presented
    cases lookup'.symm.trans lookup
    refine ⟨same.le, fun e member => ?_⟩
    cases member
    exact current.le
  | markBackgroundReady appId generation title subtitle found lookup' same ready =>
    cases presented
    cases lookup'.symm.trans lookup
    exact ⟨same.le, nofun⟩
  | beginStop appId generation found lookup' same live running =>
    cases presented
    cases lookup'.symm.trans lookup
    exact ⟨same.le, nofun⟩
  | finishApp appId generation crashed error found lookup' same live =>
    cases presented
    cases lookup'.symm.trans lookup
    exact ⟨same.le, nofun⟩
  | markUnresponsive appId generation error found lookup' same live responsive =>
    cases presented
    cases lookup'.symm.trans lookup
    exact ⟨same.le, nofun⟩

/-! ## Runs -/

theorem runAll_append (first second : List Operation) (s : SupervisorState) :
    runAll s (first ++ second) = runAll (runAll s first) second := by
  induction first generalizing s with
  | nil => rfl
  | cons op rest ih => exact ih _

theorem call_fence {s : SupervisorState} (sound : s.Sound) (op : Operation) (id : AppId) :
    s.fence id ≤ (op.call s).2.fence id := by
  rcases call_cases sound.bounded op with ⟨error, fails⟩ | ⟨token, t, succeeds, did⟩
  · rw [fails]
  · rw [succeeds]
    exact step_fence did.step id

theorem runAll_fence (ops : List Operation) (id : AppId) :
    ∀ s : SupervisorState, s.Sound → s.fence id ≤ (runAll s ops).fence id := by
  induction ops with
  | nil => exact fun s sound => le_rfl
  | cons op rest ih => exact fun s sound => (call_fence sound op id).trans (ih _ (call_sound sound op))

/-- In every run an application keeps its record and its generation does not decrease,
    the fences granted to it strictly increase, and what is presented with an older
    generation or epoch than its record's fails. -/
theorem fences_unique_and_monotone (ops later : List Operation) (id : AppId) :
    (∀ inst, (runAll default ops).apps[id]? = some inst →
      ∃ inst', (runAll default (ops ++ later)).apps[id]? = some inst' ∧
        inst.token.generation ≤ inst'.token.generation) ∧
    ((grants id default ops).Pairwise fun earlier token => earlier.fence < token.fence) ∧
    ∀ (op : Operation) (generation : Nat) (epoch : Option Nat) (inst : AppInstance),
      op.presented = some (id, generation, epoch) → (runAll default ops).apps[id]? = some inst →
      generation < inst.token.generation ∨ (∃ e ∈ epoch, e < inst.token.foregroundEpoch) →
      ∃ error, (op.call (runAll default ops)).1 = .error error := by
  have sound := runAll_sound ops default default_sound
  refine ⟨fun inst lookup => ?_, ?_, fun op generation epoch inst presented lookup stale => ?_⟩
  · have rises := runAll_fence later id _ sound
    rw [← runAll_append, fence_of lookup] at rises
    cases after : (runAll default (ops ++ later)).apps[id]? with
    | none =>
      have absent : (runAll default (ops ++ later)).fence id = ⊥ := by
        unfold SupervisorState.fence
        rw [after]
        rfl
      rw [absent] at rises
      exact absurd rises (by simp)
    | some inst' =>
      rw [fence_of after] at rises
      refine ⟨inst', rfl, ?_⟩
      rcases Prod.Lex.toLex_le_toLex.mp (WithBot.coe_le_coe.mp rises) with newer | ⟨same, _⟩
      · exact newer.le
      · exact same.le
  · have increase : (grants id default ops).Pairwise fun earlier token =>
        (earlier.fence : WithBot (ℕ ×ₗ ℕ)) < token.fence :=
      Runs.answers_increase (fun s : SupervisorState => s.fence id) (fun token => token.fence) SupervisorState.Sound
        (fun s op sound => call_sound sound op)
        (fun s op sound => call_fence sound op id) (fun s op token sound grant => (granted_step sound grant).1)
        (fun s op token sound grant => (granted_step sound grant).2.ge) ops default default_sound
    exact increase.imp fun newer => WithBot.coe_lt_coe.mp newer
  · rcases call_cases sound.bounded op with ⟨error, fails⟩ | ⟨token, t, succeeds, did⟩
    · exact ⟨error, by rw [fails]⟩
    · obtain ⟨generations, epochs⟩ := step_current did.step presented lookup
      rcases stale with old | ⟨e, member, old⟩
      · omega
      · have := epochs e member
        omega

end Remagic.Supervisor
