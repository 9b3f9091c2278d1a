import Remagic.DaemonLookout
import Remagic.Snapshots

/-!
# Who reloads

A reload reads the manifests on disk, and later replaces those in memory by what it has
read. A request on a package reloads after its operation on the package, not after a bundle
that it has only prepared, and the event loop when it is asked to. No other task has to do
with the manifests.
-/

namespace Remagic.Daemon
open Supervisor
open Programs (Program Contract Assertion Discipline)
open Snapshots.Shelf (put_self put_of_ne)
open Programs.Job (Spec Keeps only_bind only_outcome)

/-! ## What is on disk -/

/-- How far a task is with the manifests. -/
abbrev Reload := Snapshots.Reader (List AppManifest)

/-- What `load_all` has returned and would return, beside what is in memory. -/
abbrev Shelf := Snapshots.Shelf (List AppManifest)

structure Shelved where
  daemon : SharedDaemon
  shelf : Shelf

/-- What the operation puts in the place of the manifests in memory. -/
def Op.publishes {β : Type} : Op β → Option (List AppManifest)
  | .edit (.manifests manifests) => some manifests
  | _ => none

def Op.shelve (me : Nat) {β : Type} (op : Op β) (answer : Answer) (shelf : Shelf) : Shelf :=
  match op with
  | .call .loadManifests => if answer.ok then shelf.read me else shelf
  | .call (.installBundle _) | .call (.rollbackBundle _) | .call (.uninstallBundle _) =>
    if answer.ok then shelf.put me .owed else shelf
  | .edit (.manifests manifests) => shelf.publish me manifests
  | _ => shelf

/-- The operations, and what becomes of the manifests with them. -/
def shelving (me : Nat) : Programs.Meaning Op Answer Shelved where
  ready op s := op.ready me s.daemon
  exec op answer s := ((op.exec me answer s.daemon).1, ⟨(op.exec me answer s.daemon).2, op.shelve me answer s.shelf⟩)

/-! ## What each task does about them -/

/-- What a task may do that is so far. -/
def Op.allowed {β : Type} : Reload → Op β → Prop
  | .idle, op => op.errand ≠ .manifests
  | .owed, op => op.errand = .load
  | .read _ manifests, op => op.publishes = some manifests
  | .published _, op => op.errand ≠ .manifests ∧ op.errand ≠ .load ∧ op.errand ≠ .prepare ∧ op.errand ≠ .package

/-- The errands of the role: only requests on packages change packages, and beside them
    only the event loop reloads. -/
def Role.runs : Role → Errand → Bool
  | .package _, _ => true
  | .serving _, errand => errand ≠ .prepare && errand ≠ .package
  | .inputMode .., errand | .runnerExit .., errand | .handoff .., errand =>
    errand ≠ .prepare && errand ≠ .package && errand ≠ .load && errand ≠ .manifests

def reloadContract (me : Nat) (role : Role) : Contract Op Answer Shelved where
  rely s t := t.shelf.readers me = s.shelf.readers me
  refl _ := rfl
  trans _ _ _ first second := second.trans first
  -- every `load_all` succeeds
  told op answer s := op.errand = .load → answer.ok = true ∧ answer.manifests = s.shelf.latest
  guarantee op _ s := op.allowed (s.shelf.readers me) ∧ role.runs op.errand = true

/-- How far the task is, whatever the others do. -/
def At (me : Nat) (role : Role) (far : Reload → Prop) : Assertion (reloadContract me role) where
  holds s := far (s.shelf.readers me)
  stable _ _ changed holds := by
    have same : _ = _ := changed
    rw [same]
    exact holds

/-- A request on a package that succeeds has reloaded. -/
def Role.leaves (role : Role) (outcome : Outcome) (reload : Reload) : Prop :=
  reload.settled ∧ ∀ request, role = .package request → outcome.answered.isOk = true → ∃ edition, reload = .published edition

theorem Op.shelve_of_ne {me other : Nat} {β : Type} (op : Op β) (apart : other ≠ me) (answer : Answer) (shelf : Shelf) :
    (op.shelve me answer shelf).readers other = shelf.readers other := by
  have publish (manifests : List AppManifest) : (shelf.publish me manifests).readers other = shelf.readers other := by
    unfold Snapshots.Shelf.publish
    split
    · exact put_of_ne apart
    · rfl
  cases op with
  | edit change => cases change <;> first | rfl | exact publish _
  | call made =>
    cases made <;> first
      | rfl
      | (simp only [Op.shelve]; split <;> first | rfl | exact put_of_ne apart)
  | _ => rfl

def reloadDiscipline : Discipline Nat Role Op Answer Shelved Outcome where
  meaning := shelving
  contract := reloadContract
  post i role outcome := At i role (role.leaves outcome)
  apart _ _ _ _ different _ op answer s _ _ _ := op.shelve_of_ne (Ne.symm different) answer s.shelf

/-- The errands that have nothing to do with the manifests. -/
@[grind =] def otherErrands : Errand → Bool
  | .load | .manifests | .prepare | .package => false
  | .plain | .lock | .probe | .start | .parked | .wakeful | .scheduling => true

section
variable {me : Nat} {role : Role} {α β : Type} {op : Op β} {answer : Answer}

theorem Op.other_errand (other : otherErrands op.errand = true) :
    op.errand ≠ .load ∧ op.errand ≠ .manifests ∧ op.errand ≠ .prepare ∧ op.errand ≠ .package := by
  refine ⟨?_, ?_, ?_, ?_⟩
  all_goals
    intro errand
    rw [errand] at other
    cases other

theorem Role.runs_other (role : Role) {errand : Errand} (other : otherErrands errand = true) : role.runs errand = true := by
  cases role <;> cases errand <;> first | rfl | cases other

/-- Only what puts manifests in memory is said to. -/
theorem Op.publishes_errand {manifests : List AppManifest} (publishes : op.publishes = some manifests) :
    op.errand = .manifests := by
  cases op with
  | edit change => cases change <;> first | rfl | cases publishes
  | _ => cases publishes

theorem Op.shelve_other (other : otherErrands op.errand = true) (shelf : Shelf) : op.shelve me answer shelf = shelf := by
  cases op with
  | edit change => cases change <;> first | rfl | cases other
  | call made => cases made <;> first | rfl | cases other
  | _ => rfl

theorem Op.shelve_package {made : Call β} (package : made.errand = .package) (shelf : Shelf) :
    (Op.call made).shelve me answer shelf = if answer.ok then shelf.put me .owed else shelf := by
  cases made <;> first | rfl | cases package | cases ‹ServiceUnit› <;> cases package

theorem Call.refused_package {made : Call β} (package : made.errand = .package) (s : SharedDaemon) : made.refused s = false := by
  cases made <;> first | rfl | cases package

/-- A job that has nothing to do with the manifests. -/
theorem keeps_other {job : Job α} {far : Reload → Prop} (ended : ∀ reload, far reload → reload.settled)
    (bare : Bare otherErrands job) : Keeps (shelving me) (At me role far) job := by
  refine Programs.Job.Only.spec bare ?_
  intro γ op other s holds _ answer _
  unfold Op.errandIn at other
  obtain ⟨load, manifests, prepare, package⟩ := op.other_errand other
  refine ⟨⟨?_, role.runs_other other⟩, ?_⟩
  · have reached := ended _ holds
    cases reload : s.shelf.readers me with
    | idle => exact manifests
    | published edition => exact ⟨manifests, load, prepare, package⟩
    | owed =>
      rw [reload] at reached
      exact reached.elim
    | read edition found =>
      rw [reload] at reached
      exact reached.elim
  · show far ((op.shelve me answer s.shelf).readers me)
    rw [op.shelve_other other]
    exact holds

theorem keeps_idle {job : Job α} (bare : Bare otherErrands job) : Keeps (shelving me) (At me role (· = .idle)) job :=
  keeps_other (fun _ idle => idle ▸ trivial) bare

/-- A bundle is prepared by a request that has not read the manifests yet. -/
theorem keeps_prepare {request : PackageRequest} :
    Keeps (shelving me) (At me (.package request) (· = .idle)) (call .prepareBundle) := by
  refine Programs.Job.spec_try ?_
  intro s holds _ answer _
  have idle : s.shelf.readers me = .idle := holds
  refine ⟨⟨?_, rfl⟩, ?_⟩
  · rw [idle]
    show Errand.prepare ≠ .manifests
    decide
  · cases ((shelving me).exec (.call .prepareBundle) answer s).1 <;> exact idle

/-- An operation on a package, after which a reload is owed. -/
theorem package_spec {made : Call Unit} {request : PackageRequest} (package : made.errand = .package) :
    Spec (shelving me) (At me (.package request) (· = .idle)) (call made) (fun _ => At me (.package request) (· = .owed))
      fun _ => At me (.package request) (· = .idle) := by
  refine Programs.Job.spec_try ?_
  intro s holds _ answer _
  have idle : s.shelf.readers me = .idle := holds
  refine ⟨⟨?_, rfl⟩, ?_⟩
  · rw [idle]
    show made.errand ≠ .manifests
    simp [package]
  · have after : ((shelving me).exec (.call made) answer s).2.shelf.readers me = if answer.ok then .owed else .idle := by
      show ((Op.call made).shelve me answer s.shelf).readers me = _
      rw [Op.shelve_package package]
      split
      · exact put_self
      · exact idle
    have refused : made.refused s.daemon = false := Call.refused_package package s.daemon
    have reply : ((shelving me).exec (.call made) answer s).1.isOk = answer.ok := by
      simp only [shelving, Op.exec, Call.exec, refused, Bool.false_eq_true, if_false]
      cases answer.ok <;> rfl
    cases outcome : ((shelving me).exec (.call made) answer s).1 with
    | ok _ =>
      rw [outcome] at reply
      exact after.trans (if_pos reply.symm)
    | error _ =>
      rw [outcome] at reply
      exact after.trans (if_neg (by simp [← reply, Except.isOk, Except.toBool]))

theorem idle_bind {γ : Type} {Q : β → Assertion (reloadContract me role)} {job : Job γ} {next : γ → Job β} (bare : Bare otherErrands job)
    (goes : ∀ result, Spec (shelving me) (At me role (· = .idle)) (next result) Q fun _ => At me role (· = .idle)) :
    Spec (shelving me) (At me role (· = .idle)) (job >>= next) Q fun _ => At me role (· = .idle) :=
  Spec.bind (M := fun _ => At me role (· = .idle)) (keeps_idle bare) goes

theorem changePackage_spec (request : PackageRequest) :
    Spec (shelving me) (At me (.package request) (· = .idle)) (changePackage request)
      (fun _ => At me (.package request) (· = .owed)) fun _ => At me (.package request) (· = .idle) := by
  cases request with
  | install found =>
    unfold changePackage
    refine idle_bind (by grind) fun _ => keeps_prepare.bind fun _ => ?_
    iterate 2 refine idle_bind (by grind) fun _ => ?_
    exact package_spec rfl
  | upgrade expected found =>
    unfold changePackage
    refine idle_bind (by grind) fun _ => keeps_prepare.bind fun _ => ?_
    iterate 3 refine idle_bind (by grind) fun _ => ?_
    exact package_spec rfl
  | rollback app =>
    unfold changePackage
    iterate 3 refine idle_bind (by grind) fun _ => ?_
    exact package_spec rfl
  | uninstall app =>
    unfold changePackage
    iterate 4 refine idle_bind (by grind) fun _ => ?_
    exact package_spec rfl

/-- A reload reads the manifests, and then puts what it has read into memory. -/
theorem reloadManifests_spec (load : role.runs .load = true) (manifests : role.runs .manifests = true) :
    Spec (shelving me) (At me role fun reload => reload = .idle ∨ reload = .owed) reloadManifests
      (fun _ => At me role fun reload => ∃ edition, reload = .published edition)
      fun _ => At me role fun reload => ∃ edition, reload = .published edition := by
  unfold reloadManifests
  refine Spec.bind (M := fun found => At me role fun reload => ∃ edition, reload = .read edition found) ?_ fun found => ?_
  · refine Programs.Job.spec_try ?_
    intro s holds _ answer told
    obtain ⟨succeeds, found⟩ := told rfl
    refine ⟨⟨?_, load⟩, ?_⟩
    · rcases holds with idle | owed
      · rw [idle]
        show Errand.load ≠ .manifests
        decide
      · rw [owed]
        exact rfl
    · have reply : ((shelving me).exec (.call .loadManifests) answer s).1 = .ok s.shelf.latest := by
        simp [shelving, Op.exec, Call.exec, Call.refused, Call.reply, succeeds, found]
      rw [reply]
      refine ⟨s.shelf.edition, ?_⟩
      show ((Op.call Call.loadManifests).shelve me answer s.shelf).readers me = _
      simp only [Op.shelve, if_pos succeeds]
      exact put_self
  · refine Spec.bind (M := fun _ => At me role fun reload => ∃ edition, reload = .published edition) ?_ fun _ => ?_
    · refine Programs.Job.spec_op ?_
      intro s holds _ answer _
      obtain ⟨edition, read⟩ : ∃ edition, s.shelf.readers me = .read edition found := holds
      refine ⟨⟨?_, manifests⟩, edition, ?_⟩
      · rw [read]
        exact rfl
      · show (s.shelf.publish me found).readers me = _
        unfold Snapshots.Shelf.publish
        rw [read]
        exact put_self
    · refine keeps_other ?_ ?_
      · rintro reload ⟨edition, rfl⟩
        trivial
      · refine only_bind (by grind) fun _ => only_bind (by grind) fun domain => ?_
        refine Programs.Job.only_ite (fun _ => only_bind (by grind) fun restarted => ?_) fun _ => Programs.Job.only_pure ()
        cases restarted with
        | ok _ => exact Programs.Job.only_pure ()
        | error _ => grind

/-! ## The tasks -/

theorem packageReply_spec (request : PackageRequest) :
    Spec (shelving me) (At me (.package request) (· = .idle)) (packageReply request)
      (fun _ => At me (.package request) fun reload => ∃ edition, reload = .published edition)
      fun _ => At me (.package request) Snapshots.Reader.settled := by
  have published : ∀ reload : Reload, (∃ edition, reload = .published edition) → reload.settled := by
    rintro reload ⟨edition, rfl⟩
    trivial
  have idle : ∀ reload : Reload, reload = .idle → reload.settled := by
    rintro reload rfl
    trivial
  have acquired : Keeps (θ := String) (shelving me) (At me (.package request) (· = .idle)) (perform (.acquire .package)) :=
    keeps_idle (by grind)
  have changed : Spec (shelving me) (At me (.package request) (· = .idle)) (changePackage request)
      (fun _ => At me (.package request) (· = .owed)) fun _ => At me (.package request) Snapshots.Reader.settled :=
    (changePackage_spec request).weaken (fun _ h => h) (fun _ _ h => h) fun _ _ h => idle _ h
  have reloaded : Spec (shelving me) (At me (.package request) (· = .owed)) reloadManifests
      (fun _ => At me (.package request) fun reload => ∃ edition, reload = .published edition)
      fun _ => At me (.package request) Snapshots.Reader.settled :=
    (reloadManifests_spec rfl rfl).weaken (fun _ h => .inr h) (fun _ _ h => h) fun _ _ h => published _ h
  unfold packageReply holding
  refine Spec.bind (M := fun _ => At me (.package request) (· = .idle))
    (acquired.weaken (fun _ h => h) (fun _ _ h => h) fun _ _ h => idle _ h) fun _ => ?_
  refine Spec.bind ((changed.bind fun _ => reloaded).outcome) fun result => ?_
  cases result with
  | ok _ =>
    have released : Keeps (θ := String) (shelving me) (At me (.package request) fun reload => ∃ edition, reload = .published edition)
        (perform (.release .package false)) := keeps_other published (by grind)
    exact Spec.bind (released.weaken (fun _ h => h) (fun _ _ h => h) fun _ _ h => published _ h)
      fun _ => Programs.Job.spec_pure fun _ h => h
  | error error =>
    have released : Keeps (θ := String) (shelving me) (At me (.package request) Snapshots.Reader.settled) (perform (.release .package false)) :=
      keeps_other (fun _ ended => ended) (by grind)
    exact released.bind fun _ => Programs.Job.spec_throw fun _ h => h

theorem handleEvent_over {queued served : QueuedEvent} :
    Spec (shelving me) (At me (.serving served) (· = .idle)) (handleEvent queued) (fun _ => At me (.serving served) Snapshots.Reader.settled)
      fun _ => At me (.serving served) Snapshots.Reader.settled := by
  have other {job : Job Unit} (bare : Bare otherErrands job) : Spec (shelving me) (At me (.serving served) (· = .idle)) job
      (fun _ => At me (.serving served) Snapshots.Reader.settled) fun _ => At me (.serving served) Snapshots.Reader.settled := by
    refine (keeps_idle bare).weaken (fun _ h => h) ?_ ?_
    all_goals
      intro result s idle
      have far : s.shelf.readers me = .idle := idle
      show (s.shelf.readers me).settled
      rw [far]
      trivial
  unfold handleEvent
  cases queued.event with
  | reloadManifests =>
    refine (reloadManifests_spec rfl rfl).weaken (fun _ h => .inl h) ?_ ?_
    all_goals
      rintro result s ⟨edition, published⟩
      show (s.shelf.readers me).settled
      rw [published]
      trivial
  | _ => exact other (by grind)

/-- What a task on no package leaves. -/
theorem Role.leaves_over {outcome : Outcome} {reload : Reload} (other : ∀ request, role ≠ .package request) (ended : reload.settled) :
    role.leaves outcome reload :=
  ⟨ended, fun request same => absurd same (other request)⟩

theorem answerOnly_idle {job : Job Bool} (other : ∀ request, role ≠ .package request) (bare : Bare otherErrands job) :
    (answerOnly job).Spec (shelving me) (At me role (· = .idle)) fun outcome => At me role (role.leaves outcome) :=
  Program.Spec.bind (keeps_idle bare).run fun _ => Program.spec_pure fun s idle =>
    Role.leaves_over other (by
      have far : s.shelf.readers me = .idle := idle
      rw [far]
      trivial)

/-- Whoever has begun with the manifests gets done with them. -/
theorem Role.reloads (role : Role) :
    role.program.Spec (shelving me) (At me role (· = .idle)) fun outcome => At me role (role.leaves outcome) := by
  cases role with
  | serving queued =>
    refine Program.Spec.bind (M := fun _ => At me (.serving queued) Snapshots.Reader.settled) ?_ fun answered => ?_
    · refine Program.Spec.bind (M := fun _ => At me (.serving queued) (· = .idle)) ?_ fun cancelled => ?_
      · refine Program.spec_op ?_
        intro s holds _ answer _
        have idle : s.shelf.readers me = .idle := holds
        refine ⟨⟨?_, rfl⟩, ?_⟩
        · rw [idle]
          show Errand.plain ≠ .manifests
          decide
        · exact idle
      · cases cancelled with
        | true =>
          refine Program.spec_pure fun s idle => ?_
          have far : s.shelf.readers me = .idle := idle
          show (s.shelf.readers me).settled
          rw [far]
          trivial
        | false =>
          refine Program.Spec.weaken handleEvent_over (fun _ h => h) ?_
          intro outcome s ended
          cases outcome <;> exact ended
    · have recovered : Keeps (shelving me) (At me (.serving queued) Snapshots.Reader.settled) (recoverAfterFailure answered) :=
        keeps_other (fun _ ended => ended) (by grind)
      exact Program.Spec.bind recovered.run fun _ => Program.spec_pure fun _ ended =>
        Role.leaves_over (fun request same => by cases same) ended
  | package request =>
    have reply : Spec (shelving me) (At me (.package request) (· = .idle)) (do packageReply request; return true)
        (fun _ => At me (.package request) fun reload => ∃ edition, reload = .published edition)
        fun _ => At me (.package request) Snapshots.Reader.settled :=
      (packageReply_spec request).bind fun _ => Programs.Job.spec_pure fun _ h => h
    refine Program.Spec.bind reply fun answered => Program.spec_pure fun s ends => ?_
    cases answered with
    | ok _ =>
      obtain ⟨edition, published⟩ : ∃ edition, s.shelf.readers me = .published edition := ends
      refine ⟨?_, fun _ _ _ => ⟨edition, published⟩⟩
      rw [published]
      trivial
    | error error =>
      refine ⟨ends, ?_⟩
      intro _ _ succeeds
      cases succeeds
  | inputMode token mode => exact answerOnly_idle (fun request same => by cases same) (by grind)
  | runnerExit app generation exitCode crashed => exact answerOnly_idle (fun request same => by cases same) (by grind)
  | handoff authority app openPath => exact answerOnly_idle (fun request same => by cases same) (by grind)

end

end Remagic.Daemon
