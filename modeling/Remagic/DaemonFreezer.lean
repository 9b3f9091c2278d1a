import Remagic.DaemonWakelock

/-!
# Frozen applications

An application in the background may be frozen. What it is told then is lost on it, and a
stop of its unit takes its unsaved state along, so it is to be thawed first. The daemon
knows by the policy that it recorded for the application's process, which not every stop
looks at, and which is gone with the daemon.
-/

namespace Remagic.Daemon
open Supervisor
open Programs (Contract Assertion)
open Programs.Job (Spec Keeps)

/-! ## What becomes of frozen applications -/

/-- The daemon and the applications that were frozen and have been neither thawed nor found
    inactive since. Each task has failed to thaw some of them under its transition lock. -/
structure Freezer where
  daemon : SharedDaemon
  frozen : List AppId := []
  unthawed : Nat → List AppId := fun _ => []

def leaving (id : AppId) (ids : List AppId) : List AppId := ids.filter fun other => other ≠ id

/-- A freeze may have been issued all the same when it fails. -/
def Call.frozen {β : Type} (made : Call β) (answer : Answer) (s : SharedDaemon) (frozen : List AppId) : List AppId :=
  match made with
  | .freezeAndWait (.app id) => if answer.ok || answer.took then id :: frozen else frozen
  | .thawAndWait (.app id) | .stopAndWait (.app id) => if answer.ok then leaving id frozen else frozen
  | .stopAndWait .everyApp | .enterManaged => if answer.ok then [] else frozen
  | .isActive (.app id) => if answer.ok && !s.units id then leaving id frozen else frozen
  | _ => frozen

def Question.frozen (question : Question) (answer : Answer) (s : SharedDaemon) (frozen : List AppId) : List AppId :=
  match question with
  | .maybeActive (.app id) => if answer.ok && !s.units id then leaving id frozen else frozen
  | _ => frozen

def Op.frozen {β : Type} (op : Op β) (answer : Answer) (s : SharedDaemon) (frozen : List AppId) : List AppId :=
  match op with
  | .call made => made.frozen answer s frozen
  | .ask question => question.frozen answer s frozen
  | _ => frozen

/-- A task forgets what it failed to thaw when it takes the transition lock again. -/
def Op.unthawed {β : Type} (me : Nat) (op : Op β) (answer : Answer) (unthawed : Nat → List AppId) : Nat → List AppId :=
  match op with
  | .acquire .transition => Function.update unthawed me []
  | .call (.freezeAndWait (.app id)) =>
    if answer.ok || answer.took then Function.update unthawed me (leaving id (unthawed me)) else unthawed
  | .call (.thawAndWait (.app id)) => if answer.ok then unthawed else Function.update unthawed me (id :: unthawed me)
  | _ => unthawed

def freezing (me : Nat) : Programs.Meaning Op Answer Freezer where
  ready op s := op.ready me s.daemon
  exec op answer s := ((op.exec me answer s.daemon).1,
    ⟨(op.exec me answer s.daemon).2, op.frozen answer s.daemon s.frozen, op.unthawed me answer s.unthawed⟩)

def Op.freezes {β : Type} : Op β → Bool
  | .call (.freezeAndWait (.app _)) => true
  | _ => false

/-- A lifecycle command to the application. -/
def Op.tells {β : Type} (op : Op β) (id : AppId) : Bool :=
  match op with
  | .call (.enterForeground other _ _) | .call (.enterBackground other) | .call (.shutdown other) => other = id
  | _ => false

/-- A stop of the application's unit, which `enter_managed` issues as well. -/
def Op.halts {β : Type} (op : Op β) (id : AppId) : Bool :=
  match op with
  | .call (.stopAndWait (.app other)) => other = id
  | .call (.stopAndWait .everyApp) | .call .enterManaged => true
  | _ => false

def Op.manages {β : Type} : Op β → Bool
  | .call .enterManaged => true
  | _ => false

/-- The application that is found ready, whether it was launched or not. -/
def Op.readies {β : Type} : Op β → Option AppId
  | .appReady id => some id
  | _ => none

/-- No application is told anything or stopped while it is frozen, unless the task failed to
    thaw it. -/
def Op.gentle {β : Type} (me : Nat) (op : Op β) (s : Freezer) : Prop :=
  ∀ id ∈ s.frozen, op.tells id || op.halts id → id ∈ s.unthawed me

/-- The daemon knows of the applications that are frozen: those that it tells something or
    stops are recorded as such, those of a system to be restored have manifests, and there
    are none when the managed domain is entered. -/
def Op.mindful {β : Type} (me : Nat) (op : Op β) (s : Freezer) : Prop :=
  (∀ id ∈ s.frozen, op.tells id → s.daemon.backgroundExecution id = some .freeze) ∧
  (∀ id ∈ s.frozen, op.halts id → s.daemon.backgroundExecution id = some .freeze ∨ id ∈ s.unthawed me) ∧
  (op.manages → s.frozen = []) ∧
  (s.daemon.locks .transition = some me → s.daemon.domain = .restoringSystem → ∀ id ∈ s.frozen, (s.daemon.manifest id).isSome) ∧
  ∀ id ∈ op.readies, s.daemon.domain = .launching id → id ∉ s.frozen

/-- The application in the foreground is not frozen. -/
def Freezer.lively (s : Freezer) : Prop := ∀ id, s.daemon.domain = .foreground id → id ∉ s.frozen

theorem mem_leaving {id other : AppId} {ids : List AppId} : other ∈ leaving id ids ↔ other ∈ ids ∧ other ≠ id := by
  simp [leaving]

section
variable {me : Nat} {β : Type} {op : Op β} {made : Call β} {answer : Answer} {s : SharedDaemon} {frozen : List AppId}
  {id : AppId}

/-- Only a freeze adds to the frozen applications. -/
theorem Call.frozen_subset (thawing : (Op.call made).freezes = false) (there : id ∈ made.frozen answer s frozen) :
    id ∈ frozen := by
  have left : ∀ {condition : Bool} {other : AppId}, id ∈ (if condition = true then leaving other frozen else frozen) → id ∈ frozen := by
    intro condition other there
    split at there
    · exact (mem_leaving.mp there).1
    · exact there
  have emptied : ∀ {condition : Bool}, id ∈ (if condition = true then [] else frozen) → id ∈ frozen := by
    intro condition there
    split at there
    · cases there
    · exact there
  cases made with
  | freezeAndWait unit => cases unit <;> first | cases thawing; done | exact there
  | thawAndWait unit => cases unit <;> first | exact left there | exact there
  | stopAndWait unit => cases unit <;> first | exact left there | exact emptied there | exact there
  | enterManaged => exact emptied there
  | isActive unit => cases unit <;> first | exact left there | exact there
  | _ => exact there

theorem Op.frozen_subset (thawing : op.freezes = false) (there : id ∈ op.frozen answer s frozen) : id ∈ frozen := by
  cases op with
  | call made => exact made.frozen_subset thawing there
  | ask question =>
    have there : id ∈ question.frozen answer s frozen := there
    unfold Question.frozen at there
    split at there
    · split at there
      · exact (mem_leaving.mp there).1
      · exact there
    · exact there
  | _ => exact there

/-- What a task failed to thaw is for itself to know. -/
theorem Op.unthawed_of_ne {other : Nat} (apart : other ≠ me) (unthawed : Nat → List AppId) :
    op.unthawed me answer unthawed other = unthawed other := by
  cases op with
  | acquire lock => cases lock <;> first | rfl | exact Function.update_of_ne apart ..
  | call made =>
    cases made with
    | freezeAndWait unit =>
      cases unit with
      | app id =>
        simp only [Op.unthawed]
        split
        · exact Function.update_of_ne apart ..
        · rfl
      | _ => rfl
    | thawAndWait unit =>
      cases unit with
      | app id =>
        simp only [Op.unthawed]
        split
        · rfl
        · exact Function.update_of_ne apart ..
      | _ => rfl
    | _ => rfl
  | _ => rfl

/-- What an errand has to do with the frozen applications. -/
theorem Op.calm_freezes (calm : op.errand ≠ .scheduling) : op.freezes = false := by
  cases op with
  | call made =>
    cases made with
    | freezeAndWait unit => cases unit <;> first | rfl | exact absurd rfl calm
    | _ => rfl
  | _ => rfl

theorem Op.calm_tells (calm : op.errand ≠ .scheduling) (id : AppId) : op.tells id = false := by
  cases op with
  | call made => cases made <;> first | rfl | exact absurd rfl calm
  | _ => rfl

theorem Op.calm_halts (calm : op.errand ≠ .scheduling) (stops : op.halts id = true) : op.manages = true := by
  cases op with
  | call made =>
    cases made with
    | stopAndWait unit => cases unit <;> first | exact absurd rfl calm | cases stops
    | enterManaged => rfl
    | _ => cases stops
  | _ => cases stops

theorem Op.calm_unthawed (calm : op.errand ≠ .scheduling) (unlocked : op.errand ≠ .lock) (unthawed : Nat → List AppId) :
    op.unthawed me answer unthawed = unthawed := by
  cases op with
  | call made =>
    cases made with
    | freezeAndWait unit => cases unit <;> first | rfl | exact absurd rfl calm
    | thawAndWait unit => cases unit <;> first | rfl | exact absurd rfl calm
    | _ => rfl
  | acquire lock => cases lock <;> first | rfl | exact absurd rfl unlocked
  | _ => rfl

/-- The policies are changed by errands of their own. -/
theorem Op.calm_policy (calm : op.errand ≠ .scheduling) :
    (op.exec me answer s).2.backgroundExecution = s.backgroundExecution := by
  by_cases process : op.kind = .process
  · cases op with
    | takeGeneration id generation =>
      simp only [Op.exec]
      split <;> rfl
    | edit change => cases change <;> first | rfl | exact absurd rfl calm
    | acquire lock => cases lock <;> cases process
    | release lock failed => cases lock <;> cases process
    | call made => rcases made.kind_cases with same | same | same <;> simp [Op.kind, same] at process
    | _ => cases process
  · exact (op.frame me answer s).backgroundExecution process

/-- Only two transitions bring an application to the foreground. -/
theorem ManagerState.target_foreground {state : ManagerState} {transition : Transition}
    (target : state.target transition = some (.foreground id)) :
    transition = .appReady id ∧ state.domain = .launching id ∨ transition = .appRestored id ∧ state.domain = .parking id := by
  unfold ManagerState.target at target
  split at target
  case h_4 =>
    obtain ⟨_, -, impossible⟩ := Option.map_eq_some_iff.mp target
    cases impossible
  case h_8 =>
    split at target
    next same =>
      subst same
      cases target
      exact .inl ⟨rfl, ‹state.domain = _›⟩
    next => cases target
  case h_16 =>
    split at target
    next same =>
      subst same
      cases target
      exact .inr ⟨rfl, ‹state.domain = _›⟩
    next => cases target
  all_goals
    first
    | cases target
    | split at target <;> cases target

/-- No errand brings an application to the foreground by the way. -/
theorem Op.calm_foreground (calm : op.errand ≠ .scheduling) (after : (op.exec me answer s).2.domain = .foreground id) :
    s.domain = .foreground id := by
  rcases op.exec_domain me answer s with restoring | same | ⟨transition, makes, target⟩
  · rw [restoring] at after
    cases after
  · rwa [same] at after
  · rw [after] at target
    have brings : transition.errand = .scheduling := by
      rcases ManagerState.target_foreground target with ⟨rfl, -⟩ | ⟨rfl, -⟩ <;> rfl
    cases op with
    | apply other =>
      cases makes
      exact absurd brings calm
    | appReady other | commitReady other => exact absurd rfl calm
    | beginPark other returningSystem =>
      cases makes
      cases returningSystem <;> cases brings
    | finishPark other | appParked other | closed other wasForeground | stopped other =>
      cases makes
      cases brings
    | _ => cases makes

end

/-! ## What each task answers for -/

/-- What the others leave of the frozen applications. -/
structure Unthawed (me : Nat) (s t : Freezer) : Prop where
  undisturbed : Undisturbed me s.daemon t.daemon
  frozen : s.daemon.locks .transition = some me → ∀ id ∈ t.frozen, id ∈ s.frozen
  unthawed : t.unthawed me = s.unthawed me
  lively : s.lively → t.lively

/-- A task freezes under the transition lock, and is gentle with what is frozen. -/
structure Op.Careful (me : Nat) {β : Type} (op : Op β) (answer : Answer) (s : Freezer) : Prop where
  gentle : op.gentle me s
  locked : op.freezes = true → s.daemon.locks .transition = some me
  lively : s.lively → ((freezing me).exec op answer s).2.lively

def freezeContract (me : Nat) : Contract Op Answer Freezer where
  rely := Unthawed me
  refl s := ⟨Undisturbed.refl me s.daemon, fun _ _ there => there, rfl, fun lively => lively⟩
  trans _ _ _ first second :=
    ⟨first.undisturbed.trans second.undisturbed,
      fun held id there => first.frozen held id (second.frozen ((first.undisturbed.mine .transition).mpr held) id there),
      second.unthawed.trans first.unthawed, fun lively => second.lively (first.lively lively)⟩
  told op _ s := op.mindful me s
  guarantee op answer s := op.Careful me answer s

/-- What a task under the transition lock knows of an application. -/
inductive Grip where
  | loose
  /-- If it is frozen, this is the policy on record. -/
  | recorded (policy : Option BackgroundExecution)
  /-- If it is frozen and recorded so, it would not thaw. -/
  | settled
  | warm

def Grip.holds (me : Nat) (id : AppId) (s : Freezer) : Grip → Prop
  | .loose => True
  | .recorded policy => id ∈ s.frozen → s.daemon.backgroundExecution id = policy
  | .settled => id ∈ s.frozen → s.daemon.backgroundExecution id = some .freeze → id ∈ s.unthawed me
  | .warm => id ∉ s.frozen

/-- What it knows of the domain, and of all frozen applications while the stock system is restored. -/
inductive Course where
  | any
  | aside
  | restoring (left : Option (List AppId))

def Course.holds (id : AppId) (s : Freezer) : Course → Prop
  | .any => True
  | .aside => s.daemon.domain ≠ .foreground id ∧ s.daemon.domain ≠ .launching id
  | .restoring left => s.daemon.domain = .restoringSystem ∧ ∀ ids, left = some ids → ∀ other ∈ s.frozen, other ∈ ids

/-- Under the transition lock, with what the task knows there. -/
def Under (me : Nat) (id : AppId) (grip : Grip) (course : Course) : Assertion (freezeContract me) where
  holds s := s.lively ∧ s.daemon.locks .transition = some me ∧ grip.holds me id s ∧ course.holds id s
  stable s t changed := by
    rintro ⟨lively, mine, known, stands⟩
    have fewer := changed.frozen mine
    have policy := changed.undisturbed.backgroundExecution mine
    have moves := changed.undisturbed.moves mine
    refine ⟨changed.lively lively, (changed.undisturbed.mine .transition).mpr mine, ?_, ?_⟩
    · cases grip with
      | loose => trivial
      | recorded recorded =>
        intro there
        rw [policy]
        exact known (fewer id there)
      | settled =>
        intro there frozen
        rw [policy] at frozen
        rw [changed.unthawed]
        exact known (fewer id there) frozen
      | warm => exact fun there => known (fewer id there)
    · cases course with
      | any => trivial
      | aside =>
        obtain ⟨notForeground, notLaunching⟩ := stands
        refine ⟨fun foreground => ?_, fun launching => ?_⟩
        · rw [foreground] at moves
          generalize s.daemon.domain = before at *
          cases moves with
          | stay => exact notForeground rfl
          | ready => exact notLaunching rfl
        · rw [launching] at moves
          generalize s.daemon.domain = before at *
          cases moves with
          | stay => exact notLaunching rfl
      | restoring left =>
        obtain ⟨restoring, among⟩ := stands
        refine ⟨?_, fun ids same other there => among ids same other (fewer other there)⟩
        rw [restoring] at moves
        generalize t.daemon.domain = after at *
        cases moves with
        | stay => rfl

/-- Wherever the task is. -/
def Lively (me : Nat) : Assertion (freezeContract me) where
  holds s := s.lively
  stable _ _ changed := changed.lively

theorem Under.lively {me : Nat} {id : AppId} {grip : Grip} {course : Course} {s : Freezer} (holds : Under me id grip course s) :
    Lively me s := holds.1

/-- Less may be known. -/
theorem Under.loosen {me : Nat} {id other : AppId} {grip : Grip} {course : Course} {s : Freezer}
    (holds : Under me id grip course s) :
    Under me other .loose .any s := ⟨holds.1, holds.2.1, trivial, trivial⟩

/-! ## Errands that leave the frozen applications alone -/

section
variable {me : Nat} {id : AppId} {grip : Grip} {course : Course} {α β : Type} {made : Call β}
  {F : String → Assertion (freezeContract me)}

theorem Op.calm_careful {op : Op β} {s : Freezer} (calm : op.errand ≠ .scheduling) (mindful : op.mindful me s)
    (answer : Answer) :
    op.Careful me answer s where
  gentle other there reached := by
    have tells := op.calm_tells calm other
    have stops : op.halts other = true := by simpa [tells] using reached
    have none := mindful.2.2.1 (op.calm_halts calm stops)
    rw [none] at there
    cases there
  locked freezes := by
    rw [op.calm_freezes calm] at freezes
    cases freezes
  lively lively other foreground there :=
    lively other (op.calm_foreground calm foreground) (op.frozen_subset (op.calm_freezes calm) there)

/-- The domain and the frozen applications are as before, or there are fewer of them. -/
theorem Course.holds.fewer {s t : Freezer} (stands : course.holds id s) (domain : t.daemon.domain = s.daemon.domain)
    (fewer : ∀ other ∈ t.frozen, other ∈ s.frozen) : course.holds id t := by
  cases course with
  | any => trivial
  | aside =>
    show _ ≠ _ ∧ _ ≠ _
    rw [domain]
    exact stands
  | restoring left => exact ⟨domain.trans stands.1, fun ids same other there => stands.2 ids same other (fewer other there)⟩

/-- What the task knows is no less after an errand of another kind. -/
theorem Op.calm_under (op : Op β) {s : Freezer} (holds : Under me id grip course s) (calm : op.errand ≠ .scheduling)
    (unlocked : op.errand ≠ .lock) (still : course = .any ∨ op.kind ≠ .domain ∧ op.kind ≠ .grant ∧ op.kind ≠ .ready)
    (mindful : op.mindful me s) (answer : Answer) :
    op.Careful me answer s ∧ Under me id grip course ((freezing me).exec op answer s).2 := by
  obtain ⟨lively, mine, known, stands⟩ := holds
  have careful := op.calm_careful calm mindful answer
  have fewer : ∀ other ∈ ((freezing me).exec op answer s).2.frozen, other ∈ s.frozen :=
    fun other there => op.frozen_subset (op.calm_freezes calm) there
  have policy : ((freezing me).exec op answer s).2.daemon.backgroundExecution = s.daemon.backgroundExecution := op.calm_policy calm
  have unthawed : ((freezing me).exec op answer s).2.unthawed = s.unthawed := op.calm_unthawed calm unlocked s.unthawed
  refine ⟨careful, careful.lively lively, (op.exec_transition unlocked).trans mine, ?_, ?_⟩
  · cases grip with
    | loose => trivial
    | recorded recorded =>
      intro there
      rw [policy]
      exact known (fewer id there)
    | settled =>
      intro there frozen
      rw [policy] at frozen
      rw [unthawed]
      exact known (fewer id there) frozen
    | warm => exact fun there => known (fewer id there)
  · rcases still with rfl | ⟨notDomain, notGrant, notReady⟩
    · trivial
    have domain : ((freezing me).exec op answer s).2.daemon.domain = s.daemon.domain :=
      congrArg ManagerState.domain ((op.frame me answer s.daemon).state notDomain notGrant notReady)
    exact Course.holds.fewer stands domain fewer

/-- The errands that have nothing to do with frozen applications. -/
@[grind =] def otherwiseErrands : Errand → Bool
  | .scheduling => false
  | .plain | .lock | .probe | .load | .manifests | .start | .parked | .wakeful | .prepare | .package => true

/-- Those of them that a task under the transition lock is on. -/
@[grind =] def underErrands : Errand → Bool
  | .scheduling | .lock => false
  | .plain | .probe | .load | .manifests | .start | .parked | .wakeful | .prepare | .package => true

abbrev Spares (me : Nat) (job : Job α) : Prop := Keeps (freezing me) (Lively me) job

theorem spares_calm {job : Job α} (bare : Bare otherwiseErrands job) : Spares me job := by
  refine Programs.Job.Only.spec bare ?_
  intro γ op allowed s lively _ answer mindful
  unfold Op.errandIn at allowed
  have calm : op.errand ≠ .scheduling := by
    intro scheduling
    rw [scheduling] at allowed
    cases allowed
  have careful := op.calm_careful calm mindful answer
  exact ⟨careful, careful.lively lively⟩

theorem under_still {job : Job α} (bare : Bare underErrands job) (within : Within stillKinds job) :
    Keeps (freezing me) (Under me id grip course) job := by
  refine Programs.Job.Only.spec (bare.and within) ?_
  rintro γ op ⟨allowed, still⟩ s holds _ answer mindful
  unfold Op.errandIn at allowed
  unfold Op.kindIn at still
  refine op.calm_under holds (fun scheduling => ?_) (fun lock => ?_) (.inr ⟨?_, ?_, ?_⟩) mindful answer
  · rw [scheduling] at allowed
    cases allowed
  · rw [lock] at allowed
    cases allowed
  all_goals
    intro kind
    rw [kind] at still
    cases still

theorem under_calm {job : Job α} (bare : Bare underErrands job) : Keeps (freezing me) (Under me id grip .any) job := by
  refine Programs.Job.Only.spec bare ?_
  intro γ op allowed s holds _ answer mindful
  unfold Op.errandIn at allowed
  refine op.calm_under holds (fun scheduling => ?_) (fun lock => ?_) (.inl rfl) mindful answer
  · rw [scheduling] at allowed
    cases allowed
  · rw [lock] at allowed
    cases allowed

/-! ## The operations on an application's unit -/

/-- What a call leaves alone that freezes nothing. -/
theorem Op.call_leaves (me : Nat) (thawing : (Op.call made).freezes = false) (answer : Answer) (s : Freezer) :
    let after := ((freezing me).exec (.call made) answer s).2
    after.daemon.domain = s.daemon.domain ∧ after.daemon.locks = s.daemon.locks ∧
      after.daemon.backgroundExecution = s.daemon.backgroundExecution ∧ ∀ other ∈ after.frozen, other ∈ s.frozen := by
  intro after
  obtain ⟨display, units, changed, -, -⟩ := made.exec_eq answer s.daemon
  have same : after.daemon = { s.daemon with display, units } := changed
  rw [same]
  exact ⟨rfl, rfl, rfl, fun other there => made.frozen_subset thawing there⟩

theorem Op.call_under {answer : Answer} {s : Freezer} {grip' : Grip} {course' : Course}
    (holds : Under me id grip course s) (gentle : (Op.call made).gentle me s) (thawing : (Op.call made).freezes = false)
    (known : grip'.holds me id ((freezing me).exec (.call made) answer s).2)
    (stands : course'.holds id ((freezing me).exec (.call made) answer s).2) :
    (Op.call made).Careful me answer s ∧ Under me id grip' course' ((freezing me).exec (.call made) answer s).2 := by
  obtain ⟨lively, mine, -, -⟩ := holds
  obtain ⟨domain, locks, -, fewer⟩ := Op.call_leaves me thawing answer s
  have after : ((freezing me).exec (.call made) answer s).2.lively :=
    fun other foreground there => lively other (domain.symm.trans foreground) (fewer other there)
  refine ⟨⟨gentle, fun freezes => ?_, fun _ => after⟩, after, ?_, known, stands⟩
  · rw [thawing] at freezes
    cases freezes
  · exact (congrFun locks .transition).trans mine

/-- A call's answer says whether it was carried out. -/
theorem Call.exec_ok {made : Call Unit} {answer : Answer} {s : SharedDaemon} (accepted : made.refused s = false) :
    (made.exec answer s).1 = if answer.ok then .ok () else .error answer.error := by
  unfold Call.exec
  rw [if_neg (by simp [accepted])]
  by_cases ok : answer.ok = true
  · rw [if_pos ok, if_pos ok]
  · rw [if_neg ok, if_neg ok]

/-- What is found inactive is frozen no longer. -/
theorem isActive_spec : Spec (freezing me) (Under me id grip course) (call (.isActive (.app id)))
    (fun active => Under me id (if active then grip else .warm) course) fun _ => Under me id grip course := by
  refine Programs.Job.spec_try ?_
  intro s holds _ answer mindful
  obtain ⟨careful, after⟩ := Op.calm_under (.call (.isActive (.app id))) holds (by simp [Op.errand, Call.errand])
    (by simp [Op.errand, Call.errand]) (.inr (by simp [Op.kind, Call.kind])) mindful answer
  refine ⟨careful, ?_⟩
  cases ok : answer.ok with
  | false => simpa [freezing, Op.exec, Call.exec, Call.refused, ok] using after
  | true =>
    cases active : s.daemon.units id with
    | true => simpa [freezing, Op.exec, Call.exec, Call.refused, ok, Call.reply, active] using after
    | false =>
      obtain ⟨lively, mine, -, stands⟩ := after
      have warm : Under me id .warm course ((freezing me).exec (.call (.isActive (.app id))) answer s).2 := by
        refine ⟨lively, mine, ?_, stands⟩
        show id ∉ if answer.ok && !s.daemon.units id then leaving id s.frozen else s.frozen
        simp [ok, active, mem_leaving]
      simpa [freezing, Op.exec, Call.exec, Call.refused, ok, Call.reply, active] using warm

/-- A call that neither tells the application anything nor stops it. -/
theorem Op.gentle_of_apart {op : Op β} {s : Freezer} (tells : ∀ other, op.tells other = false)
    (stops : ∀ other, op.halts other = false) :
    op.gentle me s := by
  intro other _ reached
  rw [tells other, stops other] at reached
  cases reached

/-- A thaw that returns `Ok`, and one that fails. -/
theorem Op.thaw_under {s : Freezer} (holds : Under me id grip course s) (answer : Answer) :
    let after := ((freezing me).exec (.call (.thawAndWait (.app id))) answer s).2
    (Op.call (.thawAndWait (.app id))).Careful me answer s ∧
      if answer.ok then Under me id .warm course after else Under me id grip course after ∧ Under me id .settled course after := by
  intro after
  have gentle : (Op.call (.thawAndWait (.app id))).gentle me s := Op.gentle_of_apart (fun _ => rfl) fun _ => rfl
  obtain ⟨domain, -, policy, fewer⟩ := Op.call_leaves me (show (Op.call (.thawAndWait (.app id))).freezes = false from rfl) answer s
  have stands : course.holds id after := Course.holds.fewer holds.2.2.2 domain fewer
  have frozen : after.frozen = if answer.ok then leaving id s.frozen else s.frozen := rfl
  have unthawed : after.unthawed = if answer.ok then s.unthawed else Function.update s.unthawed me (id :: s.unthawed me) := rfl
  cases ok : answer.ok with
  | true =>
    refine Op.call_under holds gentle rfl ?_ stands
    show id ∉ after.frozen
    rw [frozen, ok, if_pos rfl]
    simp [mem_leaving]
  | false =>
    rw [ok, if_neg Bool.false_ne_true] at frozen unthawed
    have failed : id ∈ after.unthawed me := by simp [unthawed]
    have settled : (Op.call (.thawAndWait (.app id))).Careful me answer s ∧ Under me id .settled course after :=
      Op.call_under holds gentle rfl (fun _ _ => failed) stands
    refine ⟨settled.1, (Op.call_under holds gentle rfl ?_ stands).2, settled.2⟩
    obtain ⟨-, -, known, -⟩ := holds
    cases grip with
    | loose => trivial
    | recorded recorded =>
      intro there
      have still : id ∈ after.frozen := there
      rw [frozen] at still
      show after.daemon.backgroundExecution id = recorded
      rw [policy]
      exact known still
    | settled => exact fun _ _ => failed
    | warm =>
      show id ∉ after.frozen
      rw [frozen]
      exact known

theorem thaw_spec : Spec (freezing me) (Under me id grip course) (call (.thawAndWait (.app id)))
    (fun _ => Under me id .warm course) fun _ => Under me id grip course := by
  refine Programs.Job.spec_try ?_
  intro s holds _ answer _
  obtain ⟨careful, after⟩ := Op.thaw_under holds answer
  refine ⟨careful, ?_⟩
  have reply : ((freezing me).exec (.call (.thawAndWait (.app id))) answer s).1 = _ := Call.exec_ok rfl
  rw [reply]
  by_cases ok : answer.ok = true
  · rw [if_pos ok] at after ⊢
    exact after
  · rw [if_neg ok] at after ⊢
    exact after.1

/-- Whether it could be thawed or not. -/
theorem triedThaw_spec :
    Spec (freezing me) (Under me id grip course) (tried (.thawAndWait (.app id))) (fun _ => Under me id .settled course) F := by
  refine Programs.Job.spec_op ?_
  intro s holds _ answer _
  obtain ⟨careful, after⟩ := Op.thaw_under holds answer
  refine ⟨careful, ?_⟩
  by_cases ok : answer.ok = true
  · rw [if_pos ok] at after
    exact ⟨after.1, after.2.1, fun there => absurd there after.2.2.1, after.2.2.2⟩
  · rw [if_neg ok] at after
    exact after.2

/-- What remains of the applications to be stopped. -/
def Course.stopped (id : AppId) : Course → Course
  | .restoring (some left) => .restoring (some (leaving id left))
  | course => course

/-- An application that is stopped is thawed, or the thaw failed. -/
theorem Op.stop_under {s : Freezer} (holds : Under me id .settled course s) (answer : Answer)
    (mindful : (Op.call (.stopAndWait (.app id))).mindful me s) :
    let after := ((freezing me).exec (.call (.stopAndWait (.app id))) answer s).2
    (Op.call (.stopAndWait (.app id))).Careful me answer s ∧
      if answer.ok then Under me id .warm (course.stopped id) after else Under me id .settled course after := by
  intro after
  have gentle : (Op.call (.stopAndWait (.app id))).gentle me s := by
    intro other there reached
    have same : id = other := by simpa [Op.tells, Op.halts] using reached
    subst same
    rcases mindful.2.1 id there (by simp [Op.halts]) with recorded | failed
    · exact holds.2.2.1 there recorded
    · exact failed
  obtain ⟨domain, -, policy, fewer⟩ := Op.call_leaves me (show (Op.call (.stopAndWait (.app id))).freezes = false from rfl) answer s
  have frozen : after.frozen = if answer.ok then leaving id s.frozen else s.frozen := rfl
  cases ok : answer.ok with
  | false =>
    refine Op.call_under holds gentle rfl (fun there record => ?_) (Course.holds.fewer holds.2.2.2 domain fewer)
    rw [policy] at record
    exact holds.2.2.1 (fewer id there) record
  | true =>
    rw [ok, if_pos rfl] at frozen
    refine Op.call_under holds gentle rfl ?_ ?_
    · show id ∉ after.frozen
      rw [frozen]
      simp [mem_leaving]
    · have stands : course.holds id after := Course.holds.fewer holds.2.2.2 domain fewer
      cases course with
      | restoring left =>
        cases left with
        | none => exact stands
        | some left =>
          refine ⟨stands.1, fun ids same other there => ?_⟩
          cases same
          refine mem_leaving.mpr ⟨stands.2 left rfl other there, ?_⟩
          have still : other ∈ after.frozen := there
          rw [frozen] at still
          exact (mem_leaving.mp still).2
      | _ => exact stands

theorem stop_spec : Spec (freezing me) (Under me id .settled course) (call (.stopAndWait (.app id)))
    (fun _ => Under me id .warm (course.stopped id)) fun _ => Under me id .settled course := by
  refine Programs.Job.spec_try ?_
  intro s holds _ answer mindful
  obtain ⟨careful, after⟩ := Op.stop_under holds answer mindful
  refine ⟨careful, ?_⟩
  have reply : ((freezing me).exec (.call (.stopAndWait (.app id))) answer s).1 = _ := Call.exec_ok rfl
  rw [reply]
  by_cases ok : answer.ok = true
  · rw [if_pos ok] at after ⊢
    exact after
  · rw [if_neg ok] at after ⊢
    exact after

theorem triedStop_spec :
    Spec (freezing me) (Under me id .settled .any) (tried (.stopAndWait (.app id)))
      (fun stopped => Under me id (if stopped.isOk then .warm else .settled) .any) F := by
  refine Programs.Job.spec_op ?_
  intro s holds _ answer mindful
  obtain ⟨careful, after⟩ := Op.stop_under holds answer mindful
  refine ⟨careful, ?_⟩
  have reply : ((freezing me).exec (.call (.stopAndWait (.app id))) answer s).1 = _ := Call.exec_ok rfl
  rw [reply]
  by_cases ok : answer.ok = true
  · rw [if_pos ok] at after ⊢
    exact after
  · rw [if_neg ok] at after ⊢
    exact after

/-- A lifecycle command, to an application that is known not to be frozen, unless it could
    not be thawed. -/
theorem Op.tell_under {answer : Answer} {s : Freezer} {grip' : Grip} (holds : Under me id grip course s)
    (tells : ∀ other, (Op.call made).tells other = decide (id = other))
    (stops : ∀ other, (Op.call made).halts other = false)
    (same : ((freezing me).exec (.call made) answer s).2.frozen = s.frozen) (spared : id ∈ s.frozen → id ∈ s.unthawed me)
    (known : grip'.holds me id ((freezing me).exec (.call made) answer s).2) :
    (Op.call made).Careful me answer s ∧ Under me id grip' course ((freezing me).exec (.call made) answer s).2 := by
  have gentle : (Op.call made).gentle me s := by
    intro other there reached
    have told : id = other := by simpa [tells other, stops other] using reached
    subst told
    exact spared there
  have thawing : (Op.call made).freezes = false := by
    cases made with
    | freezeAndWait unit =>
      have none := tells id
      simp [Op.tells] at none
    | _ => rfl
  obtain ⟨domain, -, -, fewer⟩ := Op.call_leaves me thawing answer s
  exact Op.call_under holds gentle thawing known (Course.holds.fewer holds.2.2.2 domain fewer)

/-- An application that is not frozen may be told anything. -/
theorem tell_warm {made : Call Unit}
    (telling : (∃ epoch lease, made = .enterForeground id epoch lease) ∨ made = .enterBackground id) :
    Keeps (freezing me) (Under me id .warm course) (call made) := by
  refine Programs.Job.spec_try ?_
  intro s holds _ answer _
  have warm : id ∉ s.frozen := holds.2.2.1
  have goes : (Op.call made).Careful me answer s ∧ Under me id .warm course ((freezing me).exec (.call made) answer s).2 := by
    rcases telling with ⟨epoch, lease, rfl⟩ | rfl
    all_goals exact Op.tell_under holds (fun _ => rfl) (fun _ => rfl) rfl (fun there => absurd there warm) warm
  refine ⟨goes.1, ?_⟩
  split <;> exact goes.2

/-- One that does not go by a policy of freezing was not frozen. -/
theorem enterForeground_spec {epoch lease : Nat} : Spec (freezing me) (Under me id (.recorded (some .keep)) course)
    (call (.enterForeground id epoch lease)) (fun _ => Under me id .warm course) fun _ => Under me id .warm course := by
  refine Programs.Job.spec_try ?_
  intro s holds _ answer mindful
  have warm : id ∉ s.frozen := by
    intro there
    have frozen := mindful.1 id there (by simp [Op.tells])
    have kept : s.daemon.backgroundExecution id = some .keep := holds.2.2.1 there
    rw [frozen] at kept
    cases kept
  have goes : (Op.call (.enterForeground id epoch lease)).Careful me answer s ∧
      Under me id .warm course ((freezing me).exec (.call (.enterForeground id epoch lease)) answer s).2 :=
    Op.tell_under holds (fun _ => rfl) (fun _ => rfl) rfl (fun there => absurd there warm) warm
  obtain ⟨careful, after⟩ := goes
  refine ⟨careful, ?_⟩
  split <;> exact after

theorem shutdown_spec :
    Spec (freezing me) (Under me id .settled course) (tried (.shutdown id)) (fun _ => Under me id .settled course) F := by
  refine Programs.Job.spec_op ?_
  intro s holds _ answer mindful
  have known : id ∈ s.frozen → s.daemon.backgroundExecution id = some .freeze → id ∈ s.unthawed me := holds.2.2.1
  obtain ⟨-, -, policy, -⟩ := Op.call_leaves me (show (Op.call (.shutdown id)).freezes = false from rfl) answer s
  refine Op.tell_under holds (fun _ => rfl) (fun _ => rfl) rfl ?_ ?_
  · exact fun there => known there (mindful.1 id there (by simp [Op.tells]))
  · intro there frozen
    rw [policy] at frozen
    exact known there frozen

/-- An application is frozen on its way to the background. -/
theorem freeze_spec : Spec (freezing me) (Under me id grip .aside) (call (.freezeAndWait (.app id)))
    (fun _ => Under me id .loose .any) fun _ => Under me id .loose .any := by
  refine Programs.Job.spec_try ?_
  intro s holds _ answer _
  obtain ⟨lively, mine, -, notForeground, -⟩ := holds
  obtain ⟨display, units, changed, -, -⟩ := (Call.freezeAndWait (.app id)).exec_eq answer s.daemon
  have same : ((freezing me).exec (.call (.freezeAndWait (.app id))) answer s).2.daemon = { s.daemon with display, units } := changed
  have frozen : ((freezing me).exec (.call (.freezeAndWait (.app id))) answer s).2.frozen =
    if answer.ok || answer.took then id :: s.frozen else s.frozen := rfl
  have after : ((freezing me).exec (.call (.freezeAndWait (.app id))) answer s).2.lively := by
    intro other foreground there
    rw [same] at foreground
    rw [frozen] at there
    split at there
    · rcases List.mem_cons.mp there with here | before
      · subst here
        exact notForeground foreground
      · exact lively other foreground before
    · exact lively other foreground there
  refine ⟨⟨Op.gentle_of_apart (fun _ => rfl) fun _ => rfl, fun _ => mine, fun _ => after⟩, ?_⟩
  have under : Under me id .loose .any ((freezing me).exec (.call (.freezeAndWait (.app id))) answer s).2 := by
    refine ⟨after, ?_, trivial, trivial⟩
    rw [same]
    exact mine
  split <;> exact under

/-! ## What is known of an application -/

/-- The policy on record. -/
theorem policy_spec :
    Spec (freezing me) (Under me id grip course) (read fun s => s.backgroundExecution id)
      (fun policy => Under me id (.recorded policy) course) F := by
  refine Programs.Job.spec_op ?_
  intro s holds _ answer mindful
  obtain ⟨careful, lively, mine, -, stands⟩ := Op.calm_under _ holds (by simp [Op.errand]) (by simp [Op.errand])
    (.inr (by simp [Op.kind])) mindful answer
  exact ⟨careful, lively, mine, fun _ => rfl, stands⟩

/-- The policies are edited. -/
theorem edit_spec (grip' : Grip) {change : Edit} (process : change.kind = .process)
    (known : ∀ s : Freezer, grip.holds me id s → grip'.holds me id { s with daemon := s.daemon.edit change }) :
    Spec (freezing me) (Under me id grip course) (edit change) (fun _ => Under me id grip' course) F := by
  refine Programs.Job.spec_op ?_
  intro s holds _ answer _
  obtain ⟨lively, mine, grasped, stands⟩ := holds
  have frame := change.frame s.daemon
  have domain : (s.daemon.edit change).domain = s.daemon.domain :=
    congrArg ManagerState.domain (frame.state (by simp [process]) (by simp [process]) (by simp [process]))
  have after : Freezer.lively { s with daemon := s.daemon.edit change } :=
    fun other foreground there => lively other (domain.symm.trans foreground) there
  refine ⟨⟨Op.gentle_of_apart (fun _ => rfl) fun _ => rfl, fun freezes => (by cases freezes), fun _ => after⟩, after, ?_,
    known s grasped, Course.holds.fewer stands domain fun _ there => there⟩
  exact (congrFun (frame.locks (by simp [process]) (by simp [process])) .transition).trans mine

/-- An application that is not frozen comes to the foreground. -/
theorem front_spec {op : Op (Except String Unit)} (fronts : op = .commitReady id ∨ op = .apply (.appRestored id)) :
    Keeps (freezing me) (Under me id .warm .any) (attempt op) := by
  refine Programs.Job.spec_try ?_
  intro s holds _ answer _
  obtain ⟨lively, mine, warm, -⟩ := holds
  have same : ((freezing me).exec op answer s).2.frozen = s.frozen := by rcases fronts with rfl | rfl <;> rfl
  have after : ((freezing me).exec op answer s).2.lively := by
    intro other foreground
    rw [same]
    rcases op.exec_domain me answer s.daemon with restoring | still | ⟨transition, makes, target⟩
    · have both : DomainState.restoringSystem = .foreground other := restoring.symm.trans foreground
      cases both
    · exact lively other (still.symm.trans foreground)
    · have leads : s.daemon.state.target transition = some (.foreground other) := target.trans (congrArg some foreground)
      have here : other = id := by
        rcases fronts with rfl | rfl <;> cases makes <;>
          rcases ManagerState.target_foreground leads with ⟨brings, -⟩ | ⟨brings, -⟩ <;> cases brings <;> rfl
      rw [here]
      exact warm
  have careful : op.Careful me answer s := by
    rcases fronts with rfl | rfl
    all_goals exact ⟨Op.gentle_of_apart (fun _ => rfl) fun _ => rfl, fun freezes => (by cases freezes), fun _ => after⟩
  have under : Under me id .warm .any ((freezing me).exec op answer s).2 := by
    refine ⟨after, ?_, ?_, trivial⟩
    · have notLock : op.errand ≠ .lock := by rcases fronts with rfl | rfl <;> simp [Op.errand, Transition.errand]
      exact (op.exec_transition notLock).trans mine
    · show id ∉ _
      rw [same]
      exact warm
  refine ⟨careful, ?_⟩
  split <;> exact under

/-- An application says that it is ready. -/
theorem recordAppReady_spares : Spares me (recordAppReady id) := by
  refine Programs.Job.spec_try ?_
  intro s lively _ answer mindful
  have after : ((freezing me).exec (.appReady id) answer s).2.lively := by
    intro other foreground there
    rcases (Op.appReady id).exec_domain me answer s.daemon with restoring | still | ⟨transition, makes, target⟩
    · have both : DomainState.restoringSystem = .foreground other := restoring.symm.trans foreground
      cases both
    · exact lively other (still.symm.trans foreground) there
    · have leads : s.daemon.state.target transition = some (.foreground other) := target.trans (congrArg some foreground)
      cases makes
      rcases ManagerState.target_foreground leads with ⟨brings, launching⟩ | ⟨brings, -⟩ <;> cases brings
      exact mindful.2.2.2.2 id rfl launching there
  refine ⟨⟨Op.gentle_of_apart (fun _ => rfl) fun _ => rfl, fun freezes => (by cases freezes), fun _ => after⟩, ?_⟩
  split <;> exact after

/-- An application leaves the foreground, where it was not frozen. -/
theorem beginPark_spec {returningSystem : Bool} : Spec (freezing me) (Under me id .loose .any)
    (attempt (.beginPark id returningSystem)) (fun _ => Under me id .warm .aside) fun _ => Under me id .loose .any := by
  refine Programs.Job.spec_try ?_
  intro s holds _ answer mindful
  obtain ⟨careful, after⟩ := Op.calm_under (.beginPark id returningSystem) holds (by simp [Op.errand]) (by simp [Op.errand])
    (.inl rfl) mindful answer
  refine ⟨careful, ?_⟩
  by_cases foreground : s.daemon.domain = .foreground id
  · have led : ∃ state, s.daemon.beginPark id returningSystem = (.ok (), { s.daemon with state }) ∧ state.domain = .parking id := by
      have there : s.daemon.state.domain = .foreground id := foreground
      cases returningSystem <;>
        simp [SharedDaemon.beginPark, foreground, SharedDaemon.apply, ManagerState.apply, ManagerState.target, there]
    obtain ⟨state, parked, domain⟩ := led
    have reply : (freezing me).exec (.beginPark id returningSystem) answer s =
        (.ok (), ⟨{ s.daemon with state }, s.frozen, s.unthawed⟩) :=
      congrArg (fun result => (result.1, (⟨result.2, s.frozen, s.unthawed⟩ : Freezer))) parked
    rw [reply] at after ⊢
    have stands : state.domain ≠ .foreground id ∧ state.domain ≠ .launching id := by simp [domain]
    exact ⟨after.1, after.2.1, holds.1 id foreground, stands⟩
  · have reply : ((freezing me).exec (.beginPark id returningSystem) answer s).1 = (s.daemon.beginPark id returningSystem).1 := rfl
    rw [reply]
    unfold SharedDaemon.beginPark
    rw [if_neg foreground]
    exact after

/-- The stock system is to be restored, with all applications left that are frozen. -/
theorem beginRestore_course :
    Spec (freezing me) (Under me id .loose .any) (perform .beginRestore) (fun _ => Under me id .loose (.restoring none)) F := by
  refine Programs.Job.spec_op ?_
  intro s holds _ answer mindful
  obtain ⟨careful, lively, mine, -, -⟩ := Op.calm_under .beginRestore holds (by simp [Op.errand]) (by simp [Op.errand])
    (.inl rfl) mindful answer
  exact ⟨careful, lively, mine, trivial, rfl, fun ids none => (by cases none)⟩

/-- The applications that are frozen are among those that have manifests. -/
theorem manifests_spec :
    Spec (freezing me) (Under me id .loose (.restoring none)) (read SharedDaemon.manifests)
      (fun manifests => Under me id .loose (.restoring (some (manifests.map AppManifest.id)))) F := by
  refine Programs.Job.spec_op ?_
  intro s holds _ answer mindful
  obtain ⟨careful, lively, mine, -, restoring, -⟩ := Op.calm_under (.read SharedDaemon.manifests) holds
    (by simp [Op.errand]) (by simp [Op.errand]) (.inr (by simp [Op.kind])) mindful answer
  refine ⟨careful, lively, mine, trivial, restoring, fun ids same other there => ?_⟩
  cases same
  have loaded := mindful.2.2.2.1 holds.2.1 holds.2.2.2.1 other there
  obtain ⟨manifest, found⟩ := Option.isSome_iff_exists.mp loaded
  have named : manifest.id = other := by simpa using List.find?_some found
  rw [← named]
  exact List.mem_map_of_mem (List.mem_of_find?_eq_some found)

/-- None is left when all are stopped at once. -/
theorem stopEveryApp_spec : Spec (freezing me) (Under me id .loose (.restoring (some []))) (call (.stopAndWait .everyApp))
    (fun _ => Under me id .loose .any) fun _ => Under me id .loose .any := by
  refine Programs.Job.spec_try ?_
  intro s holds _ answer _
  have none : ∀ other, other ∉ s.frozen := fun other there => List.not_mem_nil (holds.2.2.2.2 [] rfl other there)
  have gentle : (Op.call (.stopAndWait .everyApp)).gentle me s := fun other there => absurd there (none other)
  have goes : (Op.call (.stopAndWait .everyApp)).Careful me answer s ∧
      Under me id .loose .any ((freezing me).exec (.call (.stopAndWait .everyApp)) answer s).2 :=
    Op.call_under holds gentle rfl trivial trivial
  obtain ⟨careful, after⟩ := goes
  refine ⟨careful, ?_⟩
  split <;> exact after

/-- Under the transition lock. -/
theorem locked_spares (id : AppId) {body : Job α} (keeps : Keeps (freezing me) (Under me id .loose .any) body) :
    Spares me (locked body) := by
  unfold locked
  refine Spec.bind (M := fun _ => Under me id .loose .any) (Programs.Job.spec_op ?_) fun _ => ?_
  · intro s lively _ answer mindful
    have careful := (Op.acquire .transition).calm_careful (by simp [Op.errand, Lock.errand]) mindful answer
    refine ⟨careful, careful.lively lively, ?_, trivial, trivial⟩
    simp [freezing, Op.exec]
  · refine Spec.bind (M := fun _ => Lively me) ?_ fun result => spares_calm (by grind)
    refine Spec.weaken (Spec.outcome (G := fun _ => Lively me) keeps) (fun _ h => h) ?_ fun _ _ h => h
    intro result s holds
    cases result <;> exact Under.lively holds

end

end Remagic.Daemon
