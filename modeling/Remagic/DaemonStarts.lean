import Remagic.DaemonErrands
import Remagic.DaemonLoop

/-!
# Who starts what

A unit of an application is started by a launch of it, which has looked for the
application under the transition lock before, or by a reload of the manifests, which
starts the background services that they declare.
-/

namespace Remagic.Daemon
open Supervisor
open Programs (Program Contract Assertion Discipline)
open Programs.Job (Spec Keeps keeps_pure keeps_throw keeps_bind keeps_ite keeps_outcome keeps_ofResult keeps_require
  keeps_ofOption keeps_mapError keeps_doIf keeps_each_mem only_bind only_outcome only_ite)

/-! ## What an onlooker tells -/

/-- What the tasks are about, as far as their operations tell. -/
structure Watch where
  /-- The application that the task looked for to launch, while it holds the transition lock. -/
  probed : Nat → Option AppId := fun _ => none
  /-- The tasks that have begun to reload the manifests. -/
  reloading : List Nat := []
  /-- The applications that tasks have stopped, until an operation on a package returns to them.
      What a reload stops is not for such an operation. -/
  stopped : List (Nat × AppId) := []

structure Watched where
  daemon : SharedDaemon
  watch : Watch := {}

def Watch.leave (task : Nat) (w : Watch) : Watch := { w with stopped := w.stopped.filter fun other => other.1 ≠ task }

def Op.watch (me : Nat) {β : Type} (op : Op β) (answer : Answer) (w : Watch) : Watch :=
  match op with
  | .ask (.executableExists id) => { w with probed := Function.update w.probed me (some id) }
  | .release .transition _ => { w with probed := Function.update w.probed me none }
  | .call .loadManifests => { w with reloading := me :: w.reloading }
  | .call (.stopAndWait (.app id)) => if answer.ok ∧ me ∉ w.reloading then { w with stopped := (me, id) :: w.stopped } else w
  | .call (.installBundle _) | .call (.rollbackBundle _) | .call (.uninstallBundle _) => w.leave me
  | _ => w

/-- The operations, and what the onlooker makes of them. -/
def watching (me : Nat) : Programs.Meaning Op Answer Watched where
  ready op s := op.ready me s.daemon
  exec op answer s := ((op.exec me answer s.daemon).1, ⟨(op.exec me answer s.daemon).2, op.watch me answer s.watch⟩)

/-! ## The units of applications -/

/-- The applications that background units belong to, by the names of the units. -/
abbrev Owners := List (String × AppId)

def ServiceUnit.owner (owners : Owners) : ServiceUnit → Option AppId
  | .app id => some id
  | .background name => owners.lookup name
  | .everyApp | .home | .display | .runtime => none

/-- The background unit of the application is its own. -/
def AppManifest.declares (owners : Owners) (manifest : AppManifest) : Prop :=
  ∀ unit, manifest.backgroundUnit = some unit → unit.owner owners = some manifest.id

def Declared (owners : Owners) (manifests : List AppManifest) : Prop := ∀ manifest ∈ manifests, manifest.declares owners

/-- The unit that the operation starts. -/
def Call.starts {β : Type} : Call β → Option ServiceUnit
  | .start unit | .startAndWait unit | .restart unit => some unit
  | .startManagedBackground id => some (managedBackgroundUnit id)
  | _ => none

def Op.starts {β : Type} : Op β → Option ServiceUnit
  | .call made => made.starts
  | _ => none

variable {id : AppId}

section
variable {owners : Owners} {me other : Nat} {β : Type} {op : Op β} {answer : Answer} {s : SharedDaemon} {w : Watch}

/-- Only what is said to start units of applications does. -/
theorem Op.starts_errand {unit : ServiceUnit} (starts : op.starts = some unit) (owner : unit.owner owners = some id) :
    op.errand = .start := by
  cases op with
  | call made =>
    cases made <;> simp [Op.starts, Call.starts] at starts
    all_goals
      subst starts
      first
        | rfl
        | cases ‹ServiceUnit› <;> first | rfl | cases owner
  | _ => cases starts

theorem Op.exec_manifests (calm : op.errand ≠ .manifests) : (op.exec me answer s).2.manifests = s.manifests := by
  refine (op.frame me answer s).manifests ?_
  intro kind
  cases op with
  | edit change => cases change <;> first | cases kind; done | exact calm rfl
  | acquire lock => cases lock <;> cases kind
  | release lock failed => cases lock <;> cases kind
  | call made => rcases made.kind_cases with same | same | same <;> simp [Op.kind, same] at kind
  | _ => cases kind

theorem Op.exec_transition (calm : op.errand ≠ .lock) : (op.exec me answer s).2.locks .transition = s.locks .transition := by
  by_cases kind : op.kind = .lock ∨ op.kind = .hold
  · cases op with
    | acquire lock => cases lock <;> first | exact absurd rfl calm | simp [Op.exec]
    | release lock failed => cases lock <;> first | exact absurd rfl calm | simp [Op.exec]
    | edit change => cases change <;> simp [Op.kind, Edit.kind] at kind
    | call made => rcases made.kind_cases with same | same | same <;> simp [Op.kind, same] at kind
    | _ => simp [Op.kind] at kind
  · rw [(op.frame me answer s).locks (fun h => kind (.inl h)) (fun h => kind (.inr h))]

theorem Op.watch_probed (me : Nat) (answer : Answer) (w : Watch) (calm : op.errand ≠ .lock) (unasked : op.errand ≠ .probe) :
    (op.watch me answer w).probed = w.probed := by
  cases op with
  | ask question => cases question <;> first | rfl | exact absurd rfl unasked
  | release lock failed => cases lock <;> first | rfl | exact absurd rfl calm
  | call made =>
    cases made <;> try rfl
    case stopAndWait unit =>
      cases unit <;> try rfl
      simp only [Op.watch]
      split <;> rfl
  | _ => rfl

/-- What the others are about is theirs to change. -/
theorem Op.watch_apart (apart : other ≠ me) : (op.watch me answer w).probed other = w.probed other := by
  cases op with
  | ask question =>
    cases question <;> try rfl
    exact Function.update_of_ne apart _ _
  | release lock failed =>
    cases lock <;> try rfl
    exact Function.update_of_ne apart _ _
  | call made =>
    cases made <;> try rfl
    case stopAndWait unit =>
      cases unit <;> try rfl
      simp only [Op.watch]
      split <;> rfl
  | _ => rfl

theorem Op.watch_reloading (op : Op β) (me : Nat) (answer : Answer) (w : Watch) :
    (op.watch me answer w).reloading = if op.errand = .load then me :: w.reloading else w.reloading := by
  cases op with
  | ask question => cases question <;> rfl
  | release lock failed => cases lock <;> rfl
  | acquire lock => cases lock <;> rfl
  | apply transition => cases transition <;> rfl
  | edit change => cases change <;> rfl
  | post event epoch => cases event <;> rfl
  | send event => cases event <;> rfl
  | call made =>
    cases made <;> try rfl
    case start unit => cases unit <;> rfl
    case startAndWait unit => cases unit <;> rfl
    case restart unit => cases unit <;> rfl
    case thawAndWait unit => cases unit <;> rfl
    case freezeAndWait unit => cases unit <;> rfl
    case stopAndWait unit =>
      cases unit <;> try rfl
      simp only [Op.watch]
      split <;> rfl
  | _ => rfl

end

/-! ## What each task answers for -/

/-- What the others leave of what is known about a task. -/
structure Unnoticed (owners : Owners) (me : Nat) (s t : Watched) : Prop where
  probed : t.watch.probed me = s.watch.probed me
  reloading : me ∈ t.watch.reloading ↔ me ∈ s.watch.reloading
  held : t.daemon.locks .transition = some me ↔ s.daemon.locks .transition = some me
  declared : Declared owners s.daemon.manifests → Declared owners t.daemon.manifests

/-- Manifests are loaded that declare only what is their applications' own. -/
def Op.told (owners : Owners) {β : Type} (op : Op β) (answer : Answer) : Prop :=
  op.errand = .load → answer.ok = true → Declared owners answer.manifests

/-- A start is accounted for by the launch of the application, or by a reload. -/
structure Op.Accounted (owners : Owners) (me : Nat) {β : Type} (op : Op β) (answer : Answer) (s : Watched) : Prop where
  starts : ∀ unit id, op.starts = some unit → unit.owner owners = some id →
    s.watch.probed me = some id ∨ me ∈ s.watch.reloading ∧ ∃ name, unit = .background name
  probes : op.errand = .probe → me = loopTask ∧ s.daemon.locks .transition = some me
  manifests : Declared owners s.daemon.manifests → Declared owners (op.exec me answer s.daemon).2.manifests
  parked : op.errand ≠ .parked

def startContract (owners : Owners) (me : Nat) : Contract Op Answer Watched where
  rely := Unnoticed owners me
  refl _ := ⟨rfl, Iff.rfl, Iff.rfl, fun declared => declared⟩
  trans _ _ _ first second :=
    ⟨second.probed.trans first.probed, second.reloading.trans first.reloading, second.held.trans first.held,
      fun declared => second.declared (first.declared declared)⟩
  told op answer _ := op.told owners answer
  guarantee op answer s := op.Accounted owners me answer s

/-- How far the task is: whether it holds the transition lock, which application it has
    looked for, and whether it reloads. -/
def Stage (owners : Owners) (me : Nat) (inside : Prop) (probed : Option AppId) (reloading : Prop) :
    Assertion (startContract owners me) where
  holds s :=
    Declared owners s.daemon.manifests ∧ (inside → s.daemon.locks .transition = some me) ∧
      (∀ id, probed = some id → s.watch.probed me = some id) ∧ (reloading → me ∈ s.watch.reloading)
  stable _ _ changed holds :=
    ⟨changed.declared holds.1, fun within => changed.held.mpr (holds.2.1 within),
      fun id there => changed.probed.trans (holds.2.2.1 id there), fun begun => changed.reloading.mpr (holds.2.2.2 begun)⟩

section
variable {owners : Owners} {me : Nat} {inside reloading : Prop} {probed : Option AppId} {α β : Type}

/-- A plain operation, or one that starts what the stage accounts for. -/
theorem Op.stays {op : Op β} {s : Watched} (holds : Stage owners me inside probed reloading s)
    (kind : op.errand = .plain ∨ op.errand = .wakeful ∨ op.errand = .start ∨ op.errand = .package ∨ op.errand = .scheduling ∨
      op.errand = .prepare)
    (accounted : ∀ unit id, op.starts = some unit → unit.owner owners = some id →
      probed = some id ∨ reloading ∧ ∃ name, unit = .background name) (answer : Answer) :
    op.Accounted owners me answer s ∧ Stage owners me inside probed reloading ((watching me).exec op answer s).2 := by
  obtain ⟨declared, within, looked, begun⟩ := holds
  have other : op.errand ≠ .lock ∧ op.errand ≠ .probe ∧ op.errand ≠ .manifests ∧ op.errand ≠ .load ∧ op.errand ≠ .parked := by
    rcases kind with kind | kind | kind | kind | kind | kind <;> simp [kind]
  obtain ⟨lock, probe, manifests, load, parked⟩ := other
  have kept : Declared owners (op.exec me answer s.daemon).2.manifests := by
    rw [op.exec_manifests manifests]
    exact declared
  refine ⟨⟨?_, fun asked => absurd asked probe, fun _ => kept, parked⟩, kept, ?_, ?_, ?_⟩
  · intro unit id starts owner
    rcases accounted unit id starts owner with launched | ⟨reloads, named⟩
    · exact .inl (looked id launched)
    · exact .inr ⟨begun reloads, named⟩
  · intro held
    exact (op.exec_transition lock).trans (within held)
  · intro id there
    have same := op.watch_probed me answer s.watch lock probe
    exact (congrFun same me).trans (looked id there)
  · intro reloads
    have same := op.watch_reloading me answer s.watch
    rw [if_neg load] at same
    exact same ▸ begun reloads

/-- The errands that keep any stage. -/
@[grind =] def plainErrands : Errand → Bool
  | .plain | .scheduling => true
  | _ => false

/-- The errands of a task that holds no lock. -/
@[grind =] def lockErrands : Errand → Bool
  | .plain | .lock | .wakeful | .prepare | .package | .scheduling => true
  | _ => false

/-- Whatever happens, the job answers for what it starts. -/
abbrev Stays (owners : Owners) (me : Nat) (inside : Prop) (probed : Option AppId) (reloading : Prop) (job : Job α) : Prop :=
  Keeps (watching me) (Stage owners me inside probed reloading) job

theorem stays_plain {job : Job α} (bare : Bare plainErrands job) : Stays owners me inside probed reloading job := by
  refine Programs.Job.Only.spec bare ?_
  intro γ op allowed s holds _ answer _
  have plain : op.errand = .plain ∨ op.errand = .scheduling := by
    unfold Op.errandIn at allowed
    cases kind : op.errand <;> rw [kind] at allowed <;> first | exact .inl rfl | exact .inr rfl | cases allowed
  refine op.stays holds (plain.imp_right fun scheduling => .inr (.inr (.inr (.inl scheduling)))) ?_ answer
  intro unit id starts owner
  have start := Op.starts_errand starts owner
  rcases plain with plain | scheduling
  · rw [plain] at start
    cases start
  · rw [scheduling] at start
    cases start

/-- The transition lock is taken or let go. -/
theorem Op.stays_lock (op : Op β) {s : Watched} (holds : Stage owners me False none reloading s) (lock : op.errand = .lock)
    (answer : Answer) :
    op.Accounted owners me answer s ∧ Stage owners me False none reloading ((watching me).exec op answer s).2 := by
  obtain ⟨declared, -, -, begun⟩ := holds
  have kept : Declared owners (op.exec me answer s.daemon).2.manifests := by
    rw [op.exec_manifests (by simp [lock])]
    exact declared
  refine ⟨⟨?_, fun asked => ?_, fun _ => kept, by simp [lock]⟩, kept, fun none => none.elim, fun id there => (by cases there), ?_⟩
  · intro unit id starts owner
    have start := Op.starts_errand starts owner
    rw [lock] at start
    cases start
  · rw [lock] at asked
    cases asked
  · intro reloads
    have same := op.watch_reloading me answer s.watch
    rw [if_neg (by simp [lock])] at same
    exact same ▸ begun reloads

theorem stays_locks {job : Job α} (bare : Bare lockErrands job) : Stays owners me False none reloading job := by
  refine Programs.Job.Only.spec bare ?_
  intro γ op allowed s holds _ answer _
  by_cases lock : op.errand = .lock
  · exact op.stays_lock holds lock answer
  · have kind : op.errand = .plain ∨ op.errand = .wakeful ∨ op.errand = .start ∨ op.errand = .package ∨
        op.errand = .scheduling ∨ op.errand = .prepare := by
      unfold Op.errandIn at allowed
      cases kind : op.errand <;> rw [kind] at allowed lock <;> simp_all [lockErrands]
    refine op.stays holds kind ?_ answer
    intro unit id starts owner
    have start := Op.starts_errand starts owner
    unfold Op.errandIn at allowed
    rw [start] at allowed
    cases allowed

/-- A call that starts a unit. -/
theorem stays_start {made : Call Unit} {unit : ServiceUnit} (start : made.errand = .start)
    (starts : made.starts = some unit) (owner : unit.owner owners = some id)
    (accounted : probed = some id ∨ reloading ∧ ∃ name, unit = .background name) :
    Stays owners me inside probed reloading (call made) := by
  refine Programs.Job.spec_try ?_
  intro s holds _ answer _
  have goes := (Op.call made).stays holds (.inr (.inr (.inl start))) (fun other owned started belongs => by
    have same : made.starts = some other := started
    rw [starts] at same
    cases same
    rw [owner] at belongs
    cases belongs
    exact accounted) answer
  refine ⟨goes.1, ?_⟩
  split <;> exact goes.2

/-- Less may be known. -/
theorem Stage.forget {s : Watched} (holds : Stage owners me inside probed reloading s) : Stage owners me False none False s :=
  ⟨holds.1, fun none => none.elim, fun id there => (by cases there), fun none => none.elim⟩

/-! ## Background services -/

theorem ensureBackgroundService_stays {manifest : AppManifest} (own : manifest.declares owners)
    (entitled : probed = some manifest.id ∨ reloading) :
    Stays owners me inside probed reloading (ensureBackgroundService manifest) := by
  unfold ensureBackgroundService
  cases service : manifest.backgroundService with
  | none => exact keeps_pure ()
  | some service' =>
    cases service' with
    | systemd unit =>
      have owner := own (.background unit) (by simp [AppManifest.backgroundUnit, service])
      refine keeps_bind (stays_plain (by grind)) fun active => keeps_ite (fun _ => keeps_pure ()) fun _ => ?_
      exact stays_start rfl rfl owner (entitled.imp id fun reloads => ⟨reloads, unit, rfl⟩)
    | managed =>
      have owner := own (managedBackgroundUnit manifest.id) (by simp [AppManifest.backgroundUnit, service])
      have start : Stays owners me inside probed reloading (call (.startManagedBackground manifest.id)) :=
        stays_start rfl rfl owner (entitled.imp id fun reloads => ⟨reloads, _, rfl⟩)
      exact keeps_ite (fun _ => keeps_bind (stays_plain (by grind)) fun _ => start) fun _ => start

theorem prepareBackground_stays {manifest : AppManifest} {quiesced : Bool} (own : manifest.declares owners)
    (entitled : probed = some manifest.id ∨ reloading) :
    Stays owners me inside probed reloading (prepareBackground manifest quiesced) := by
  unfold prepareBackground
  refine keeps_ite (fun _ => ?_) fun _ => ensureBackgroundService_stays own entitled
  cases named : manifest.backgroundUnit with
  | none => exact keeps_pure ()
  | some unit =>
    obtain ⟨name, rfl⟩ := manifest.backgroundUnit_named named
    exact stays_plain (by grind)

theorem startDeclaredBackgroundServices_stays : Stays owners me inside probed True startDeclaredBackgroundServices := by
  unfold startDeclaredBackgroundServices
  refine Spec.bind (M := fun manifests => (Stage owners me inside probed True).and (Assertion.fact (Declared owners manifests))) ?_
    fun manifests => Spec.of_fact fun declared => ?_
  · refine Programs.Job.spec_op ?_
    intro s holds _ answer _
    have goes := (Op.read SharedDaemon.manifests).stays holds (.inl rfl) (fun _ _ starts => by cases starts) answer
    exact ⟨goes.1, goes.2, holds.1⟩
  · refine keeps_each_mem fun manifest there => ?_
    exact keeps_bind (keeps_outcome (ensureBackgroundService_stays (declared manifest there) (.inr trivial))) fun _ => keeps_pure ()

theorem reloadManifests_stays : Stays owners me False none False reloadManifests := by
  unfold reloadManifests
  refine Spec.bind (M := fun manifests => (Stage owners me False none True).and (Assertion.fact (Declared owners manifests))) ?_
    fun manifests => Spec.of_fact fun declared => ?_
  · refine Programs.Job.spec_try ?_
    intro s holds _ answer told
    refine ⟨⟨fun unit id starts owner => (by cases starts), fun probe => (by cases probe), ?_, fun parked => (by cases parked)⟩, ?_⟩
    · intro declared
      rw [(Op.call Call.loadManifests).exec_manifests (by simp [Op.errand, Call.errand])]
      exact declared
    · have kept : Declared owners ((watching me).exec (.call .loadManifests) answer s).2.daemon.manifests := by
        have same : ((Op.call Call.loadManifests).exec me answer s.daemon).2.manifests = s.daemon.manifests :=
          Op.exec_manifests (by simp [Op.errand, Call.errand])
        exact same ▸ holds.1
      have begun : me ∈ ((watching me).exec (.call .loadManifests) answer s).2.watch.reloading := List.mem_cons_self ..
      split
      next manifests loaded =>
        refine ⟨⟨kept, fun none => none.elim, fun id there => (by cases there), fun _ => begun⟩, ?_⟩
        have good := told rfl
        simp only [watching, Op.exec, Call.exec, Call.refused] at loaded
        by_cases ok : answer.ok = true
        · simp only [ok] at loaded
          cases loaded
          exact good ok
        · simp [ok] at loaded
      next error failed => exact ⟨kept, fun none => none.elim, fun id there => (by cases there), fun none => none.elim⟩
  · refine Spec.bind (M := fun _ => Stage owners me False none True) ?_ fun _ => ?_
    rotate_left
    · refine Spec.weaken (Q := fun _ => Stage owners me False none True) (F := fun _ => Stage owners me False none True) ?_
        (fun _ h => h) (fun _ _ h => Stage.forget h) fun _ _ h => Stage.forget h
      refine keeps_bind startDeclaredBackgroundServices_stays fun _ => keeps_bind (stays_plain (by grind)) fun domain => ?_
      refine keeps_ite (fun _ => keeps_bind (stays_plain (by grind)) fun restarted => ?_) fun _ => keeps_pure ()
      cases restarted with
      | ok _ => exact keeps_pure ()
      | error _ => exact stays_locks (by grind)
    refine Programs.Job.spec_op ?_
    intro s holds _ answer _
    obtain ⟨-, -, -, begun⟩ := holds
    exact ⟨⟨fun unit id starts owner => (by cases starts), fun probe => (by cases probe), fun _ => declared,
      fun parked => (by cases parked)⟩, declared, fun none => none.elim, fun id there => (by cases there), begun⟩

/-! ## Launches -/

/-- The job answers for what it starts, and leaves nothing to account for by. -/
abbrev Ends (owners : Owners) (me : Nat) (inside : Prop) (probed : Option AppId) (job : Job α) : Prop :=
  Spec (watching me) (Stage owners me inside probed False) job (fun _ => Stage owners me False none False)
    fun _ => Stage owners me False none False

theorem ends_of_stays {job : Job α} (stays : Stays owners me inside probed False job) : Ends owners me inside probed job :=
  stays.weaken (fun _ h => h) (fun _ _ h => Stage.forget h) fun _ _ h => Stage.forget h

theorem ends_bind {job : Job β} {next : β → Job α} (first : Stays owners me inside probed False job)
    (second : ∀ result, Ends owners me inside probed (next result)) : Ends owners me inside probed (job >>= next) :=
  Spec.bind (M := fun _ => Stage owners me inside probed False)
    (first.weaken (fun _ h => h) (fun _ _ h => h) fun _ _ h => Stage.forget h) second

/-- Under the transition lock. -/
theorem locked_stays {body : Job α} (ends : Ends owners me True none body) : Stays owners me False none False
    (locked body) := by
  unfold locked
  refine Spec.bind (M := fun _ => Stage owners me True none False) (Programs.Job.spec_op ?_) fun _ => ?_
  · intro s holds _ answer _
    have goes := (Op.acquire .transition).stays_lock holds rfl answer
    exact ⟨goes.1, goes.2.1, fun _ => (by simp [watching, Op.exec]), fun id there => (by cases there), fun none => none.elim⟩
  · refine Spec.bind (M := fun _ => Stage owners me False none False) ?_ fun result => ?_
    · refine Spec.weaken (Spec.outcome (G := fun _ => Stage owners me False none False) ends) (fun _ h => h) ?_ fun _ _ h => h
      intro result s after
      cases result <;> exact after
    · refine keeps_bind (Programs.Job.spec_op ?_) fun _ => keeps_ofResult result
      intro s holds _ answer _
      exact (Op.release .transition (!result.isOk)).stays_lock holds rfl answer

/-- A manifest that the daemon knows is the application's, and declares what is its own. -/
theorem manifest_spec :
    Spec (watching me) (Stage owners me inside probed reloading) (read fun s => s.manifest id)
      (fun found => (Stage owners me inside probed reloading).and
        (Assertion.fact (∀ manifest, found = some manifest → manifest.id = id ∧ manifest.declares owners)))
      fun _ => Stage owners me inside probed reloading := by
  refine Programs.Job.spec_op ?_
  intro s holds _ answer _
  have goes := (Op.read fun s => s.manifest id).stays holds (.inl rfl) (fun _ _ starts => by cases starts) answer
  refine ⟨goes.1, goes.2, fun manifest found => ?_⟩
  have there : s.daemon.manifests.find? (fun manifest => manifest.id = id) = some manifest := found
  exact ⟨by simpa using List.find?_some there, holds.1 manifest (List.mem_of_find?_eq_some there)⟩

/-- A launch looks for its application under the lock. -/
theorem probe_spec (loop : me = loopTask) :
    Spec (watching me) (Stage owners me True none False) (ask (.executableExists id))
      (fun _ => Stage owners me True (some id) False) fun _ => Stage owners me False none False := by
  refine Programs.Job.spec_op ?_
  intro s holds _ answer _
  obtain ⟨declared, held, -, -⟩ := holds
  refine ⟨⟨fun unit app starts => (by cases starts), fun _ => ⟨loop, held trivial⟩, fun _ => declared, fun parked => (by cases parked)⟩,
    declared, held, fun app there => ?_, fun none => none.elim⟩
  cases there
  exact Function.update_self ..

/-- What is known of a launch that is prepared. -/
def LaunchContext.isFor (owners : Owners) (id : AppId) (context : LaunchContext) : Prop :=
  context.id = id ∧ context.manifest.id = id ∧ context.manifest.declares owners

theorem prepareLaunch_spec (loop : me = loopTask) (id : AppId) (openPath : Option String) :
    Spec (watching me) (Stage owners me True none False) (prepareLaunch id openPath)
      (fun context => (Stage owners me True (some id) False).and (Assertion.fact (context.isFor owners id)))
      fun _ => Stage owners me False none False := by
  have step {inside' : Prop} {probed' : Option AppId} {γ : Type} {job : Job γ} {next : γ → Job LaunchContext}
      (first : Stays owners me inside' probed' False job)
      (second : ∀ result, Spec (watching me) (Stage owners me inside' probed' False) (next result)
        (fun context => (Stage owners me True (some id) False).and (Assertion.fact (context.isFor owners id)))
        fun _ => Stage owners me False none False) :
      Spec (watching me) (Stage owners me inside' probed' False) (job >>= next)
        (fun context => (Stage owners me True (some id) False).and (Assertion.fact (context.isFor owners id)))
        fun _ => Stage owners me False none False :=
    Spec.bind (M := fun _ => Stage owners me inside' probed' False)
      (first.weaken (fun _ h => h) (fun _ _ h => h) fun _ _ h => Stage.forget h) second
  unfold prepareLaunch
  refine Spec.bind (manifest_spec.weaken (fun _ h => h) (fun _ _ h => h) fun _ _ h => Stage.forget h) fun found => ?_
  refine Spec.of_fact fun known => ?_
  refine Spec.bind (M := fun manifest => (Stage owners me True none False).and
    (Assertion.fact (manifest.id = id ∧ manifest.declares owners))) ?_ fun manifest => Spec.of_fact fun ⟨same, own⟩ => ?_
  · exact Programs.Job.spec_ofOption (fun manifest found _ holds => ⟨holds, known manifest found⟩) fun _ _ holds => Stage.forget holds
  refine step (keeps_require _ _) fun _ => Spec.bind (probe_spec loop) fun present => ?_
  have entitled : some id = some manifest.id ∨ False := .inl (congrArg some same.symm)
  refine step (keeps_require _ _) fun _ => step (stays_plain (by grind)) fun _ => step (stays_plain (by grind)) fun active => ?_
  refine step (prepareBackground_stays own entitled) fun _ => step (stays_plain (by grind)) fun generation => ?_
  refine step (stays_plain (by grind)) fun captured => step (keeps_ofResult _) fun backgroundExecution => ?_
  refine step (stays_plain (by grind)) fun foregroundEpoch => step (keeps_ofOption _ _) fun _ => ?_
  exact Programs.Job.spec_pure fun _ holds => ⟨holds, rfl, same, own⟩

theorem activateAndWait_stays {context : LaunchContext} {queued : QueuedEvent} (isFor : context.isFor owners id) :
    Stays owners me inside (some id) False (activateAndWait context queued) := by
  obtain ⟨rfl, same, own⟩ := isFor
  unfold activateAndWait
  refine keeps_bind (stays_plain (by grind)) fun _ => keeps_bind (stays_plain (by grind)) fun _ => ?_
  refine keeps_bind (stays_plain (by grind)) fun _ => keeps_bind ?_ fun _ => ?_
  · unfold resumeOrStart
    refine keeps_ite (fun _ => stays_plain (by grind)) fun _ => keeps_bind (stays_plain (by grind)) fun _ => ?_
    exact stays_start rfl rfl rfl (.inl rfl)
  · iterate 4 refine keeps_bind (stays_plain (by grind)) fun _ => ?_
    refine keeps_bind (ensureBackgroundService_stays own (.inl (congrArg some same.symm))) fun _ => ?_
    exact stays_plain (by grind)

theorem rollbackError_stays {context : LaunchContext} {cause : String} (isFor : context.isFor owners id) :
    Stays owners me inside (some id) False (rollbackError context cause) := by
  obtain ⟨-, same, own⟩ := isFor
  unfold rollbackError
  refine keeps_bind (keeps_outcome ?_) fun rolledBack => ?_
  · unfold rollbackLaunch
    iterate 8 refine keeps_bind (stays_plain (by grind)) fun _ => ?_
    refine keeps_ite (fun _ => ?_) fun _ => keeps_pure ()
    exact keeps_mapError (ensureBackgroundService_stays own (.inl (congrArg some same.symm)))
  · cases rolledBack with
    | ok _ => exact keeps_bind (stays_plain (by grind)) fun _ => keeps_pure _
    | error error => exact keeps_pure _

theorem launchFromManager_ends (loop : me = loopTask) (id : AppId) (openPath : Option String) (queued : QueuedEvent) :
    Ends owners me True none (launchFromManager id openPath queued) := by
  unfold launchFromManager
  refine ends_bind (stays_plain (by grind)) fun domain => ends_bind (keeps_require _ _) fun _ => ?_
  refine Spec.bind (prepareLaunch_spec loop id openPath) fun context => Spec.of_fact fun isFor => ?_
  have ⟨_, same, own⟩ := isFor
  refine ends_bind (stays_plain (by grind)) fun applied => ends_of_stays ?_
  cases applied with
  | error error =>
    refine keeps_bind (keeps_outcome ?_) fun _ => keeps_throw error
    exact ensureBackgroundService_stays own (.inl (congrArg some same.symm))
  | ok _ =>
    refine keeps_bind (keeps_outcome (activateAndWait_stays isFor)) fun activated => ?_
    cases activated with
    | error error => exact keeps_bind (rollbackError_stays isFor) fun cause => keeps_throw cause
    | ok _ =>
      refine keeps_bind (stays_plain (by grind)) fun committed => ?_
      cases committed with
      | error error => exact keeps_bind (rollbackError_stays isFor) fun cause => keeps_throw cause
      | ok _ => exact keeps_pure ()

theorem launchCurrent_stays (loop : me = loopTask) (id : AppId) (openPath : Option String) (queued : QueuedEvent) :
    Stays owners me False none False (launchCurrent id openPath queued) :=
  keeps_bind (stays_plain (by grind)) fun _ => locked_stays (launchFromManager_ends loop id openPath queued)

theorem launch_stays (loop : me = loopTask) (id : AppId) (openPath : Option String) (queued : QueuedEvent) :
    Stays owners me False none False (launch id openPath queued) := by
  unfold launch
  refine keeps_bind (stays_plain (by grind)) fun _ => keeps_bind (stays_plain (by grind)) fun domain => ?_
  refine keeps_bind (keeps_ofResult _) fun route => ?_
  cases route with
  | alreadyForeground => exact keeps_pure ()
  | park current => exact keeps_bind (stays_locks (by grind)) fun _ => launchCurrent_stays loop id openPath queued
  | manager => exact launchCurrent_stays loop id openPath queued

/-! ## The tasks -/

theorem handleEvent_stays {queued : QueuedEvent} (loop : me = loopTask) :
    Stays owners me False none False (handleEvent queued) := by
  unfold handleEvent
  cases queued.event with
  | singlePower =>
    unfold singlePower
    refine keeps_bind (stays_plain (by grind)) fun domain => ?_
    cases domain <;> try exact stays_locks (by grind)
    refine keeps_bind (stays_plain (by grind)) fun last => ?_
    cases last with
    | none => exact keeps_pure ()
    | some app => exact launch_stays loop app none queued
  | launch app openPath => exact launch_stays loop app openPath queued
  | runtimeLaunch authority app openPath => exact keeps_bind (stays_locks (by grind)) fun _ => launch_stays loop app openPath queued
  | reloadManifests => exact reloadManifests_stays
  | _ => exact stays_locks (by grind)

theorem answerOnly_stays {job : Job Bool} (stays : Stays owners me False none False job) :
    (answerOnly job).Spec (watching me) (Stage owners me False none False) fun _ => Stage owners me False none False :=
  Program.Spec.bind stays.run fun _ => Program.spec_pure fun _ holds => holds

/-- Every task accounts for what it starts. -/
theorem Role.stays {role : Role} (wellFormed : role.wellFormed me) :
    role.program.Spec (watching me) (Stage owners me False none False) fun _ => Stage owners me False none False := by
  cases role with
  | serving queued =>
    refine Program.Spec.bind (M := fun _ => Stage owners me False none False) ?_ fun answered => ?_
    · refine Program.Spec.bind (M := fun _ => Stage owners me False none False) (Program.spec_op ?_) fun cancelled => ?_
      · intro s holds _ answer _
        exact Op.stays holds (.inl rfl) (fun _ _ starts => by cases starts) answer
      · cases cancelled with
        | true => exact Program.spec_pure fun _ holds => holds
        | false => exact (handleEvent_stays wellFormed.1).run
    · have recovered : Stays owners me False none False (recoverAfterFailure answered) := stays_locks (by grind)
      exact Program.Spec.bind recovered.run fun _ => Program.spec_pure fun _ holds => holds
  | package request =>
    refine answerOnly_stays (keeps_bind ?_ fun _ => keeps_pure _)
    unfold packageReply holding
    refine keeps_bind (stays_locks (by grind)) fun _ => keeps_bind (keeps_outcome ?_) fun _ => ?_
    · exact keeps_bind (stays_locks (by grind)) fun _ => reloadManifests_stays
    · exact keeps_bind (stays_locks (by grind)) fun _ => keeps_ofResult _
  | inputMode token mode => exact answerOnly_stays (stays_locks (by grind))
  | runnerExit app generation exitCode crashed => exact answerOnly_stays (stays_locks (by grind))
  | handoff authority app openPath => exact answerOnly_stays (stays_locks (by grind))

end

end Remagic.Daemon
