import Mathlib.Data.List.Nodup
import Remagic.DaemonPackages

/-!
# Exchanges of an application's data

An application that may synchronise has the provider of the data stopped, and then has
the provider's helper export the data or import some. A request looks once whether the
provider is active, and the helper runs under no lock.
-/

namespace Remagic.Daemon
open Supervisor
open Programs (Program)

/-! ## The requests -/

def syncCapability : String := "sync:koreader-state-v1"

/-- `SyncAction`, with the path that the exchange names. -/
inductive SyncAction where
  | prepare
  | exportTo (output : String)
  | importFrom (input : String)
  | finish
  deriving DecidableEq

/-- How far `sync_request_inner` is. -/
inductive SyncStage where
  /-- The event that closes the provider is on its way. -/
  | closing (provider : AppId)
  | closed (provider : AppId)
  /-- `ensure_provider_stopped`, before the path is looked at. -/
  | checking (provider : AppManifest) (executable path : String)
  /-- `run_provider`, up to the helper's process. -/
  | starting (provider : AppManifest) (executable path : String)
  | running (provider : AppId)
  | answered (result : Except String String)

/-- What the world answers at a stage. -/
structure SyncAnswer where
  ok : Bool := true
  output : String := ""
  error : String := "failed"

/-- Up to the first wait. -/
def syncRequest (manifests : List AppManifest) (requesterId providerId : AppId) (action : SyncAction) (answer : SyncAnswer) :
    Except String SyncStage :=
  match manifests.find? fun manifest => manifest.id = requesterId, manifests.find? fun manifest => manifest.id = providerId with
  | none, _ => .error ("unknown sync requester " ++ requesterId.value)
  | some _, none => .error ("unknown sync provider " ++ providerId.value)
  | some requester, some provider =>
    if !requester.hasCapability syncCapability then
      .error ("application " ++ requesterId.value ++ " lacks " ++ syncCapability)
    else match provider.syncProvider with
      | none => .error ("application " ++ providerId.value ++ " is not a sync provider")
      | some contract =>
        if requester.runtimeDir.isNone then .error "sync requester has no runtime directories"
        else if !answer.ok then .error answer.error
        else .ok <| match action with
          | .prepare => .closing providerId
          | .exportTo output => .checking provider contract.exporter output
          | .importFrom input => .checking provider contract.importer input
          | .finish => .answered (.ok "sync session finished")

/-- What follows a stage, where `active` tells of the units of applications. -/
def SyncStage.goOn (active : AppId → Bool) (answer : SyncAnswer) : SyncStage → SyncStage
  | .closing provider => if answer.ok then .closed provider else .answered (.error answer.error)
  | .closed provider =>
    if !answer.ok || active provider then .answered (.error ("application " ++ provider.value ++ " did not stop"))
    else .answered (.ok "provider stopped and data is stable")
  | .checking provider executable path =>
    -- an application of which systemd does not tell counts as active
    if !answer.ok || active provider.id then
      .answered (.error ("application " ++ provider.id.value ++ " must be prepared before data exchange"))
    else .starting provider executable path
  | .starting provider _ _ =>
    if !answer.ok then .answered (.error answer.error)
    else if provider.runtimeDir.isNone then .answered (.error "sync provider has no runtime directories")
    else .running provider.id
  -- the helper is not killed with the wait for it
  | .running _ => .answered (.error "sync provider timed out")
  | .answered result => .answered result

/-! ## The machine with its exchanges -/

structure Syncs where
  lookout : Lookout
  /-- The sync requests, by their clients. -/
  stages : Nat → Option SyncStage := fun _ => none
  /-- The helpers that run, for their clients and under the providers' names. -/
  helpers : List (Nat × AppId) := []
  /-- The background units that are active. -/
  services : List String := []
  /-- Ghost: the providers found stopped whose helpers are yet to start. -/
  cleared : List (Nat × AppId) := []
  /-- Ghost: the package requests under way. -/
  packaging : List (Nat × AppId) := []

inductive SyncMove where
  | look (look : Look)
  | request (client : Nat) (requester provider : AppId) (action : SyncAction) (answer : SyncAnswer)
  | goOn (client : Nat) (answer : SyncAnswer)
  /-- The client's helper ends. -/
  | ends (client : Nat) (answer : SyncAnswer)
  /-- The client is gone. -/
  | drop (client : Nat)
  | serviceExits (name : String)

/-- The application whose package the request changes. -/
def PackageRequest.target : PackageRequest → AppId
  | .install found => found
  | .upgrade _ found => found
  | .rollback app => app
  | .uninstall app => app

/-- The background unit that the operation stops. -/
def Op.silences {β : Type} : Op β → Option String
  | .call (.stopAndWait (.background name)) => some name
  | _ => none

/-- The background unit that the operation starts. -/
def Op.wakens {β : Type} (op : Op β) : Option String :=
  match op.starts with
  | some (.background name) => some name
  | _ => none

/-- What the operation makes of the background units, if it takes effect. -/
def Op.services {β : Type} (op : Op β) (answer : Answer) (services : List String) : List String :=
  if answer.ok || answer.took then
    op.wakens.toList ++ services.filter fun name => op.silences ≠ some name
  else services

def without (client : Nat) (entries : List (Nat × AppId)) : List (Nat × AppId) := entries.filter fun entry => entry.1 ≠ client

namespace Syncs

def setStage (client : Nat) (stage : Option SyncStage) (s : Syncs) : Syncs :=
  { s with stages := Function.update s.stages client stage }

def servicesAfter (s : Syncs) : Look → List String
  | .step (.perform task answer) =>
    match s.lookout.machine.tasks task with
    | some (_, .perform op _) =>
      if !s.lookout.machine.failed && op.ready task s.lookout.shared then op.services answer s.services else s.services
    | _ => s.services
  | _ => s.services

/-- The task begins. -/
def begins (task : Nat) (s : Syncs) : Bool :=
  !s.lookout.machine.failed && !s.lookout.bound task && task ≠ loopTask && (s.lookout.machine.tasks task).isNone

/-- The requests on packages, until their operations are over. -/
def packagingAfter (s : Syncs) : Look → List (Nat × AppId)
  | .step (.spawn task (.package request)) => if s.begins task then (task, request.target) :: s.packaging else s.packaging
  | .step (.finish task) =>
    match s.lookout.machine.tasks task with
    | some (_, .done _) => without task s.packaging
    | _ => s.packaging
  | .step (.abandon task) =>
    match s.lookout.machine.tasks task with
    | some (_, .perform op _) => if op.blocking then s.packaging else without task s.packaging
    | some (_, .done _) => without task s.packaging
    | none => s.packaging
  | .returned task => if (s.lookout.machine.tasks task).isNone then without task s.packaging else s.packaging
  | _ => s.packaging

def look (look : Look) (s : Syncs) : Syncs :=
  { s with lookout := s.lookout.next look, services := s.servicesAfter look, packaging := s.packagingAfter look }

/-- `sync_request`: closing the provider is left to the event loop. -/
def request (client : Nat) (requester provider : AppId) (action : SyncAction) (answer : SyncAnswer) (s : Syncs) : Syncs :=
  match syncRequest s.lookout.shared.manifests requester provider action answer with
  | .error error => s.setStage client (some (.answered (.error error)))
  | .ok stage =>
    { s with
      lookout := match stage with
        | .closing provider => s.lookout.next (.step (.create (.close provider true) true))
        | _ => s.lookout }.setStage client (some stage)

def goOn (client : Nat) (answer : SyncAnswer) (s : Syncs) : Syncs :=
  match s.stages client with
  | none => s
  | some stage =>
    let next := stage.goOn s.lookout.shared.units answer
    { s with
      helpers := match stage, next with
        | .starting provider _ _, .running _ => (client, provider.id) :: s.helpers
        | _, _ => s.helpers
      cleared := match next with
        | .starting provider _ _ => (client, provider.id) :: s.cleared
        | _ => without client s.cleared }.setStage client (some next)

def ends (client : Nat) (answer : SyncAnswer) (s : Syncs) : Syncs :=
  let after := { s with helpers := without client s.helpers }
  match s.stages client with
  | some (.running _) => after.setStage client (some (.answered (if answer.ok then .ok answer.output else .error answer.error)))
  | _ => after

/-- The number is a client's that is not there yet, nor is a helper of it. -/
def free (client : Nat) (s : Syncs) : Bool := (s.stages client).isNone && s.helpers.all fun entry => entry.1 ≠ client

def next (s : Syncs) : SyncMove → Syncs
  | .look (.step (.spawn task role)) =>
    -- a task's number is free again once its operation on a package is over
    if s.packaging.any fun entry => entry.1 = task then s else s.look (.step (.spawn task role))
  | .look look => s.look look
  | .request client requester provider action answer =>
    if !s.lookout.machine.failed && s.free client then s.request client requester provider action answer else s
  | .goOn client answer => if s.lookout.machine.failed then s else s.goOn client answer
  | .ends client answer => s.ends client answer
  | .drop client => { s with cleared := without client s.cleared }.setStage client none
  | .serviceExits name => { s with services := s.services.filter fun other => other ≠ name }

/-- A helper works on the data of the application. -/
def exchanges (id : AppId) (s : Syncs) : Bool := s.helpers.any fun entry => entry.2 = id

/-- A helper works on the data, or is about to. -/
def guarded (id : AppId) (s : Syncs) : Bool := (s.cleared ++ s.helpers).any fun entry => entry.2 = id

/-- `run`, once the declared background services are started. -/
def boot (manifests : List AppManifest) (sessions : Table AppSession) (services : List String) : Syncs :=
  { lookout := .boot manifests sessions, services }

end Syncs

/-! ## Runs in which the data is stable -/

/-- The task starts nothing of a provider whose data is being exchanged. -/
def Task.spares (owners : Owners) (s : Syncs) : Option Task → Prop
  | some (_, .perform op _) => ∀ entry ∈ s.cleared ++ s.helpers, op.leaves owners entry.2
  | some (_, .done _) | none => True

/-- Nothing of the provider is under way when it is found to be stopped: no other
    exchange, no launch, no service, and no change of its package. -/
def Syncs.settled (owners : Owners) (id : AppId) (s : Syncs) : Prop :=
  s.guarded id = false ∧ s.lookout.watch.probed loopTask ≠ some id ∧
    (serves owners id = true → s.lookout.watch.reloading = []) ∧
    (∀ name ∈ s.services, owners.lookup name ≠ some id) ∧ ∀ entry ∈ s.packaging, entry.2 ≠ id

def SyncStage.settled (owners : Owners) (s : Syncs) : SyncStage → Prop
  | .checking provider _ _ => s.settled owners provider.id
  | .closing _ | .closed _ | .starting .. | .running _ | .answered _ => True

/-- From the check on, a provider's data is left alone: it is not launched, the manifests
    are not reloaded if they declare a background service for it, and its package is not changed. -/
def Syncs.stable (owners : Owners) (s : Syncs) : SyncMove → Prop
  | .look (.step (.perform task answer)) =>
    Declared owners answer.manifests ∧ Task.spares owners s (s.lookout.machine.tasks task)
  | .look (.step (.spawn _ (.package request))) => s.guarded request.target = false
  | .goOn client _ => ∀ stage ∈ s.stages client, stage.settled owners s
  | _ => True

section
variable (owners : Owners) (s : Syncs)

instance Op.leaves.decide (id : AppId) {β : Type} (op : Op β) : Decidable (op.leaves owners id) := by
  unfold Op.leaves
  infer_instance

instance Task.spares.decide : ∀ doing, Decidable (Task.spares owners s doing)
  | some (_, .perform op _) => inferInstanceAs (Decidable (∀ entry ∈ s.cleared ++ s.helpers, op.leaves owners entry.2))
  | some (_, .done _) => isTrue trivial
  | none => isTrue trivial

instance Syncs.settled.decide (id : AppId) : Decidable (s.settled owners id) := by
  unfold Syncs.settled
  infer_instance

instance SyncStage.settled.decide : ∀ stage, Decidable (SyncStage.settled owners s stage)
  | .checking provider _ _ => Syncs.settled.decide owners s provider.id
  | .closing _ | .closed _ | .starting .. | .running _ | .answered _ => isTrue trivial

instance Syncs.stable.decide : ∀ move, Decidable (s.stable owners move)
  | .look (.step (.perform task answer)) =>
    inferInstanceAs (Decidable (Declared owners answer.manifests ∧ Task.spares owners s (s.lookout.machine.tasks task)))
  | .look (.step (.spawn _ (.package request))) => inferInstanceAs (Decidable (s.guarded request.target = false))
  | .goOn client _ => inferInstanceAs (Decidable (∀ stage ∈ s.stages client, stage.settled owners s))
  | .look (.step (.spawn _ (.serving _))) | .look (.step (.spawn _ (.inputMode ..))) | .look (.step (.spawn _ (.runnerExit ..)))
  | .look (.step (.spawn _ (.handoff ..))) | .look (.step (.create ..)) | .look (.step (.enqueue _))
  | .look (.step (.giveUp _)) | .look (.step (.fire _)) | .look (.step .serve) | .look (.step (.finish _))
  | .look (.step (.abandon _)) | .look (.step (.unitExits _)) | .look (.step .displayExits) | .look (.step (.homeCommits _))
  | .look (.returned _) | .request .. | .ends .. | .drop _ | .serviceExits _ => isTrue trivial

end

/-! ## What holds while the data is stable -/

structure Syncs.Steady (owners : Owners) (s : Syncs) : Prop where
  sound : s.lookout.Sound owners
  quiet : ∀ entry ∈ s.cleared ++ s.helpers, s.lookout.Quiet owners entry.2
  silent : ∀ entry ∈ s.cleared ++ s.helpers, ∀ name ∈ s.services, owners.lookup name ≠ some entry.2
  unpackaged : ∀ entry ∈ s.cleared ++ s.helpers, ∀ other ∈ s.packaging, other.2 ≠ entry.2
  alone : ((s.cleared ++ s.helpers).map Prod.snd).Nodup
  started : ∀ client provider executable path, s.stages client = some (.starting provider executable path) →
    (client, provider.id) ∈ s.cleared

variable {client : Nat}

theorem mem_without {entry : Nat × AppId} {entries : List (Nat × AppId)} :
    entry ∈ without client entries ↔ entry ∈ entries ∧ entry.1 ≠ client := by
  simp [without]

theorem Op.mem_services {β : Type} {op : Op β} {answer : Answer} {services : List String} {name : String}
    (there : name ∈ op.services answer services) : name ∈ services ∨ op.starts = some (.background name) := by
  unfold Op.services at there
  split at there
  · rcases List.mem_append.mp there with woken | before
    · right
      unfold Op.wakens at woken
      split at woken
      next other starts =>
        have same : name = other := by simpa using woken
        rw [same, starts]
      next => cases woken
    · exact .inl (List.mem_filter.mp before).1
  · exact .inl there

namespace Syncs
variable {owners : Owners} {s : Syncs} {answer : SyncAnswer}

/-- What there is fewer of is steady as well. -/
theorem Steady.fewer {t : Syncs} (steady : s.Steady owners) (lookout : t.lookout = s.lookout)
    (exchanges : (t.cleared ++ t.helpers).Sublist (s.cleared ++ s.helpers)) (services : ∀ name ∈ t.services, name ∈ s.services)
    (packaging : t.packaging = s.packaging)
    (started : ∀ client provider executable path, t.stages client = some (.starting provider executable path) →
      (client, provider.id) ∈ t.cleared) : t.Steady owners where
  sound := by
    rw [lookout]
    exact steady.sound
  quiet entry there := by
    rw [lookout]
    exact steady.quiet entry (exchanges.subset there)
  silent entry there name active := steady.silent entry (exchanges.subset there) name (services name active)
  unpackaged entry there := by
    rw [packaging]
    exact steady.unpackaged entry (exchanges.subset there)
  alone := steady.alone.sublist (exchanges.map Prod.snd)
  started := started

/-- The machine goes on beside the exchanges. -/
theorem Steady.beside {t : Syncs} (steady : s.Steady owners) (sound : t.lookout.Sound owners)
    (quiet : ∀ entry ∈ s.cleared ++ s.helpers, t.lookout.Quiet owners entry.2) (cleared : t.cleared = s.cleared)
    (helpers : t.helpers = s.helpers) (stages : t.stages = s.stages)
    (services : ∀ entry ∈ s.cleared ++ s.helpers, ∀ name ∈ t.services, owners.lookup name ≠ some entry.2)
    (packaging : ∀ entry ∈ s.cleared ++ s.helpers, ∀ other ∈ t.packaging, other.2 ≠ entry.2) : t.Steady owners where
  sound := sound
  quiet := by
    rw [cleared, helpers]
    exact quiet
  silent := by
    rw [cleared, helpers]
    exact services
  unpackaged := by
    rw [cleared, helpers]
    exact packaging
  alone := by
    rw [cleared, helpers]
    exact steady.alone
  started := by
    rw [cleared, stages]
    exact steady.started

theorem packagingAfter_subset {look : Look} (other : ∀ task request, look ≠ .step (.spawn task (.package request))) :
    ∀ entry ∈ s.packagingAfter look, entry ∈ s.packaging := by
  intro entry there
  unfold packagingAfter at there
  split at there
  · exact absurd rfl (other _ _)
  · split at there
    · exact (mem_without.mp there).1
    · exact there
  · split at there
    · split at there
      · exact there
      · exact (mem_without.mp there).1
    · exact (mem_without.mp there).1
    · exact there
  · split at there
    · exact (mem_without.mp there).1
    · exact there
  · exact there

theorem Steady.perform {task : Nat} {answer : Answer} (steady : s.Steady owners)
    (stable : s.stable owners (.look (.step (.perform task answer)))) : (s.look (.step (.perform task answer))).Steady owners := by
  obtain ⟨told, spares⟩ := stable
  have packaging : ∀ entry ∈ s.cleared ++ s.helpers, ∀ other ∈ s.packaging, other.2 ≠ entry.2 := steady.unpackaged
  by_cases goes : s.lookout.machine.failed = false ∧ ∃ role, ∃ β, ∃ op : Op β, ∃ next,
      s.lookout.machine.tasks task = some (role, .perform op next) ∧ op.ready task s.lookout.shared = true
  · obtain ⟨alive, role, β, op, next, there, able⟩ := goes
    obtain ⟨-, accounted, -⟩ := steady.sound.answers told there able
    rw [there] at spares
    refine steady.beside ?_ (fun entry mem => ?_) rfl rfl rfl (fun entry mem name active => ?_) packaging
    · exact steady.sound.next (show Look.told owners (.step (.perform task answer)) from told)
    · show (s.lookout.next (.step (.perform task answer))).Quiet owners entry.2
      rw [Lookout.next_perform alive]
      exact (steady.quiet entry mem).leaves (spares entry mem) accounted there able
    · have after : name ∈ op.services answer s.services := by
        simpa [look, servicesAfter, there, alive, able] using active
      rcases Op.mem_services after with before | starts
      · exact steady.silent entry mem name before
      · exact (steady.quiet entry mem).starts accounted starts
  · have same : s.lookout.next (.step (.perform task answer)) = s.lookout := by
      by_cases failed : s.lookout.machine.failed = true
      · exact Lookout.next_failed failed
      · have alive : s.lookout.machine.failed = false := by simpa using failed
        rw [Lookout.next_perform alive]
        refine Lookout.perform_idle fun role β op next there => ?_
        by_contra able
        exact goes ⟨alive, role, β, op, next, there, by simpa using able⟩
    have services : s.servicesAfter (.step (.perform task answer)) = s.services := by
      simp only [servicesAfter]
      split
      next role β op next there =>
        refine if_neg fun able => goes ?_
        obtain ⟨alive, able⟩ : s.lookout.machine.failed = false ∧ op.ready task s.lookout.shared = true := by simpa using able
        exact ⟨alive, role, β, op, next, there, able⟩
      next => rfl
    refine steady.beside ?_ ?_ rfl rfl rfl ?_ packaging
    · show (s.lookout.next (.step (.perform task answer))).Sound owners
      rw [same]
      exact steady.sound
    · show ∀ entry ∈ s.cleared ++ s.helpers, (s.lookout.next (.step (.perform task answer))).Quiet owners entry.2
      rw [same]
      exact steady.quiet
    · show ∀ entry ∈ s.cleared ++ s.helpers, ∀ name ∈ s.servicesAfter (.step (.perform task answer)), owners.lookup name ≠ some entry.2
      rw [services]
      exact steady.silent

/-- What happens beside the tasks. -/
theorem Steady.look {look : Look} (steady : s.Steady owners) (other : ∀ task answer, look ≠ .step (.perform task answer))
    (stable : s.stable owners (.look look)) : (s.look look).Steady owners := by
  have told : look.told owners := by
    cases look with
    | returned task => trivial
    | step step =>
      cases step with
      | perform task answer => exact absurd rfl (other task answer)
      | _ => trivial
  have services : s.servicesAfter look = s.services := by
    unfold servicesAfter
    split
    · exact absurd rfl (other _ _)
    · rfl
  refine steady.beside (steady.sound.next told) (fun entry mem => (steady.quiet entry mem).next other) rfl rfl rfl
    (fun entry mem => ?_) (fun entry mem => ?_)
  · show ∀ name ∈ s.servicesAfter look, _
    rw [services]
    exact steady.silent entry mem
  · by_cases package : ∃ task request, look = .step (.spawn task (.package request))
    · obtain ⟨task, request, rfl⟩ := package
      have unguarded : s.guarded request.target = false := stable
      intro other there
      have cases' : other ∈ s.packaging ∨ other.2 = request.target := by
        simp only [Syncs.look, packagingAfter] at there
        split at there
        · rcases List.mem_cons.mp there with new | before
          · exact .inr (by rw [new])
          · exact .inl before
        · exact .inl there
      rcases cases' with before | target
      · exact steady.unpackaged entry mem other before
      · intro same
        have guarded : s.guarded request.target = true := List.any_eq_true.mpr ⟨entry, mem, decide_eq_true (same.symm.trans target)⟩
        rw [unguarded] at guarded
        cases guarded
    · intro other there
      exact steady.unpackaged entry mem other
        (packagingAfter_subset (fun task request same => package ⟨task, request, same⟩) other there)

theorem without_sublist {entries : List (Nat × AppId)} : (without client entries).Sublist entries :=
  List.filter_sublist

/-- A request's stage changes, and no exchange begins. -/
theorem Steady.setStage {stage : Option SyncStage} {cleared : List (Nat × AppId)} (steady : s.Steady owners)
    (fewer : cleared = s.cleared ∨ cleared = without client s.cleared)
    (begins : ∀ provider executable path, stage ≠ some (.starting provider executable path)) :
    ({ s with cleared }.setStage client stage).Steady owners := by
  have sublist : cleared.Sublist s.cleared := by
    rcases fewer with rfl | rfl
    · exact List.Sublist.refl _
    · exact without_sublist
  refine steady.fewer rfl (sublist.append_right _) (fun _ active => active) rfl fun other provider executable path there => ?_
  by_cases same : other = client
  · subst same
    have now : Function.update s.stages other stage other = some (.starting provider executable path) := there
    rw [Function.update_self] at now
    exact absurd now (begins provider executable path)
  · have before : Function.update s.stages client stage other = some (.starting provider executable path) := there
    rw [Function.update_of_ne same] at before
    have mem := steady.started other provider executable path before
    show (other, provider.id) ∈ cleared
    rcases fewer with rfl | rfl
    · exact mem
    · exact mem_without.mpr ⟨mem, same⟩

theorem syncRequest_waits {manifests : List AppManifest} {requester provider : AppId} {action : SyncAction}
    {stage : SyncStage} (accepted : syncRequest manifests requester provider action answer = .ok stage) :
    ∀ found executable path, some stage ≠ some (.starting found executable path) := by
  intro found executable path same
  cases same
  unfold syncRequest at accepted
  repeat' split at accepted
  all_goals cases accepted

theorem Steady.request {requester provider : AppId} {action : SyncAction} (steady : s.Steady owners) :
    (s.request client requester provider action answer).Steady owners := by
  unfold Syncs.request
  split
  next => exact steady.setStage (.inl rfl) (by simp)
  next stage accepted =>
    have waits := syncRequest_waits accepted
    refine Steady.setStage (s := { s with lookout := _ }) ?_ (.inl rfl) waits
    split
    next found =>
      have created := steady.sound.next (show Look.told owners (.step (.create (.close found true) true)) from trivial)
      have other : ∀ task answer, Look.step (.create (.close found true) true) ≠ .step (.perform task answer) := by simp
      exact steady.beside created (fun entry mem => (steady.quiet entry mem).next other) rfl rfl rfl steady.silent steady.unpackaged
    · exact steady

/-- A provider is found stopped while nothing of it is under way. -/
theorem Steady.clear {provider : AppManifest} {executable path : String} (steady : s.Steady owners)
    (settled : s.settled owners provider.id) (inactive : s.lookout.shared.units provider.id = false) :
    ({ s with cleared := (client, provider.id) :: s.cleared }.setStage client (some (.starting provider executable path))).Steady owners := by
  obtain ⟨unguarded, unlaunched, unloaded, silent, unpackaged⟩ := settled
  have new : ∀ {p : Nat × AppId → Prop}, p (client, provider.id) → (∀ entry ∈ s.cleared ++ s.helpers, p entry) →
      ∀ entry ∈ (client, provider.id) :: s.cleared ++ s.helpers, p entry := by
    intro p here there entry mem
    rcases List.mem_cons.mp mem with rfl | before
    · exact here
    · exact there entry before
  refine ⟨steady.sound, new ⟨fun task probed => ?_, unloaded, inactive⟩ steady.quiet, new silent steady.silent,
    new unpackaged steady.unpackaged, List.nodup_cons.mpr ⟨fun mem => ?_, steady.alone⟩, fun other found executable' path' there => ?_⟩
  · obtain ⟨loop, -⟩ := steady.sound.inside task _ probed
    rw [loop] at probed
    exact unlaunched probed
  · obtain ⟨entry, there, same⟩ := List.mem_map.mp mem
    have guarded : s.guarded provider.id = true := List.any_eq_true.mpr ⟨entry, there, decide_eq_true same⟩
    rw [unguarded] at guarded
    cases guarded
  · by_cases same : other = client
    · subst same
      have now : Function.update s.stages other (some (.starting provider executable path)) other =
        some (.starting found executable' path') := there
      rw [Function.update_self] at now
      cases now
      exact List.mem_cons_self ..
    · have before : Function.update s.stages client (some (.starting provider executable path)) other =
        some (.starting found executable' path') := there
      rw [Function.update_of_ne same] at before
      exact List.mem_cons_of_mem _ (steady.started other found executable' path' before)

/-- The helper starts. -/
theorem Steady.exchange {provider : AppId} (steady : s.Steady owners) (mem : (client, provider) ∈ s.cleared) :
    ({ s with cleared := without client s.cleared, helpers := (client, provider) :: s.helpers }.setStage client
      (some (.running provider))).Steady owners := by
  have within : ∀ entry ∈ without client s.cleared ++ (client, provider) :: s.helpers, entry ∈ s.cleared ++ s.helpers := by
    intro entry there
    rcases List.mem_append.mp there with other | there
    · exact List.mem_append_left _ (mem_without.mp other).1
    · rcases List.mem_cons.mp there with rfl | before
      · exact List.mem_append_left _ mem
      · exact List.mem_append_right _ before
  have only : ∀ entry ∈ s.cleared ++ s.helpers, entry.2 = provider → entry = (client, provider) := fun entry there same =>
    List.inj_on_of_nodup_map steady.alone there (List.mem_append_left _ mem) same
  refine ⟨steady.sound, fun entry there => steady.quiet entry (within entry there),
    fun entry there => steady.silent entry (within entry there), fun entry there => steady.unpackaged entry (within entry there), ?_,
    fun other found executable path there => ?_⟩
  · show ((without client s.cleared ++ (client, provider) :: s.helpers).map Prod.snd).Nodup
    rw [List.map_append, List.map_cons, List.nodup_middle]
    refine List.nodup_cons.mpr ⟨fun again => ?_, ?_⟩
    · rw [← List.map_append] at again
      obtain ⟨entry, there, same⟩ := List.mem_map.mp again
      rcases List.mem_append.mp there with other | helper
      · obtain ⟨cleared, apart⟩ := mem_without.mp other
        rw [only entry (List.mem_append_left _ cleared) same] at apart
        exact apart rfl
      · rw [only entry (List.mem_append_right _ helper) same] at helper
        exact List.disjoint_of_nodup_append (List.Nodup.of_map _ steady.alone) mem helper
    · rw [← List.map_append]
      exact steady.alone.sublist ((without_sublist.append_right _).map _)
  · have apart : other ≠ client := by
      rintro rfl
      have now : Function.update s.stages other (some (.running provider)) other = some (.starting found executable path) := there
      rw [Function.update_self] at now
      cases now
    have before : Function.update s.stages client (some (.running provider)) other = some (.starting found executable path) := there
    rw [Function.update_of_ne apart] at before
    exact mem_without.mpr ⟨steady.started other found executable path before, apart⟩

theorem Steady.goOn (steady : s.Steady owners) (stable : ∀ stage ∈ s.stages client, stage.settled owners s) :
    (s.goOn client answer).Steady owners := by
  unfold Syncs.goOn
  split
  next => exact steady
  next stage there =>
    cases stage with
    | checking provider executable path =>
      simp only [SyncStage.goOn]
      split
      · exact steady.setStage (.inr rfl) (by simp)
      next inactive => exact steady.clear (stable _ there) (by simp_all)
    | starting provider executable path =>
      simp only [SyncStage.goOn]
      split
      · exact steady.setStage (.inr rfl) (by simp)
      · split
        · exact steady.setStage (.inr rfl) (by simp)
        · exact steady.exchange (steady.started client provider executable path there)
    | closing provider =>
      simp only [SyncStage.goOn]
      split <;> exact steady.setStage (.inr rfl) (by simp)
    | closed provider =>
      simp only [SyncStage.goOn]
      split <;> exact steady.setStage (.inr rfl) (by simp)
    | running provider => exact steady.setStage (.inr rfl) (by simp [SyncStage.goOn])
    | answered result => exact steady.setStage (.inr rfl) (by simp [SyncStage.goOn])

theorem Steady.ends (steady : s.Steady owners) : (s.ends client answer).Steady owners := by
  have after : ({ s with helpers := without client s.helpers } : Syncs).Steady owners :=
    steady.fewer rfl (without_sublist.append_left _) (fun _ active => active) rfl steady.started
  unfold Syncs.ends
  split
  · exact after.setStage (.inl rfl) (by simp)
  · exact after

/-- One step that leaves the data alone. -/
theorem Steady.next {move : SyncMove} (steady : s.Steady owners) (stable : s.stable owners move) :
    (s.next move).Steady owners := by
  cases move with
  | look look =>
    by_cases performs : ∃ task answer, look = .step (.perform task answer)
    · obtain ⟨task, answer, rfl⟩ := performs
      exact steady.perform stable
    · have other : ∀ task answer, look ≠ .step (.perform task answer) := fun task answer same => performs ⟨task, answer, same⟩
      by_cases spawns : ∃ task role, look = .step (.spawn task role)
      · obtain ⟨task, role, rfl⟩ := spawns
        simp only [Syncs.next]
        split
        · exact steady
        · exact steady.look other stable
      · have goes : s.next (.look look) = s.look look := by
          unfold Syncs.next
          split
          next same => cases same; exact absurd ⟨_, _, rfl⟩ spawns
          next same => cases same; rfl
          all_goals
            next same => cases same
        rw [goes]
        exact steady.look other stable
  | request client requester provider action answer =>
    simp only [Syncs.next]
    split
    · exact steady.request
    · exact steady
  | goOn client answer =>
    simp only [Syncs.next]
    split
    · exact steady
    · exact steady.goOn stable
  | ends client answer => exact steady.ends
  | drop client => exact steady.setStage (.inr rfl) (by simp)
  | serviceExits name =>
    exact steady.fewer rfl (List.Sublist.refl _) (fun _ active => (List.mem_filter.mp active).1) rfl steady.started

theorem Steady.boot {manifests : List AppManifest} {sessions : Table AppSession} {services : List String}
    (declared : Declared owners manifests) : (Syncs.boot manifests sessions services).Steady owners where
  sound := .boot declared
  quiet _ there := nomatch there
  silent _ there := nomatch there
  unpackaged _ there := nomatch there
  alone := .nil
  started _ _ _ _ there := nomatch there

end Syncs

/-- Along a run that leaves the data of providers alone while it is exchanged: no unit of
    a provider whose helper runs is active, none is started, and nothing else is done to
    its data or its package. -/
theorem exchanges_stable (owners : Owners) (manifests : List AppManifest) (sessions : Table AppSession) (services : List String)
    (moves : List SyncMove) (declared : Declared owners manifests)
    (along : Runs.Along Syncs.next (Syncs.stable owners) (Syncs.boot manifests sessions services) moves) :
    let s := moves.foldl Syncs.next (Syncs.boot manifests sessions services)
    ∀ id, s.exchanges id = true →
      s.lookout.shared.units id = false ∧ (∀ name ∈ s.services, owners.lookup name ≠ some id) ∧
        (∀ look, s.stable owners (.look look) → ∀ unit, unit.owner owners = some id → s.lookout.starts look ≠ some unit) ∧
        (s.helpers.map Prod.snd).count id = 1 ∧ ∀ entry ∈ s.packaging, entry.2 ≠ id := by
  intro s id exchanges
  have steady : s.Steady owners := along.invariant (Syncs.Steady owners) (fun _ _ holds stable => holds.next stable) (.boot declared)
  obtain ⟨entry, helper, same⟩ := List.any_eq_true.mp exchanges
  have same : entry.2 = id := by simpa using same
  subst same
  have there : entry ∈ s.cleared ++ s.helpers := List.mem_append_right _ helper
  have quiet := steady.quiet entry there
  refine ⟨quiet.inactive, steady.silent entry there, fun look stable unit owner starts => ?_, ?_, steady.unpackaged entry there⟩
  · cases look with
    | returned task => cases starts
    | step step =>
      cases step with
      | perform task answer =>
        exact quiet.starts_by steady.sound (show Look.told owners (.step (.perform task answer)) from stable.1) starts owner
      | _ => cases starts
  · have alone : (s.helpers.map Prod.snd).Nodup := steady.alone.sublist ((List.sublist_append_right ..).map _)
    exact List.count_eq_one_of_mem alone (List.mem_map_of_mem helper)

def koreaderId : AppId := ⟨"koreader", by decide⟩

def cloudSyncId : AppId := ⟨"cloud-sync", by decide⟩

def koreader : AppManifest :=
  { id := koreaderId, runtimeDir := some "/run/koreader", syncProvider := some ⟨"/apps/koreader/export", "/apps/koreader/import"⟩ }

def cloudSync : AppManifest := { id := cloudSyncId, runtimeDir := some "/run/cloud-sync", capabilities := [syncCapability] }

/-- A client has the data exported, up to the start of the helper. -/
def SyncMove.exporting (client : Nat) : List SyncMove :=
  [.request client cloudSyncId koreaderId (.exportTo "/run/cloud-sync/state") {}, .goOn client {}, .goOn client {}]

theorem exchanges_stable_export :
    let s := (SyncMove.exporting 1).foldl Syncs.next (Syncs.boot [koreader, cloudSync] (fun _ => none) [])
    s.exchanges koreaderId = true ∧ s.lookout.shared.units koreaderId = false :=
  ⟨by decide +kernel,
    (exchanges_stable [] [koreader, cloudSync] (fun _ => none) [] (SyncMove.exporting 1) (by decide +kernel) (by decide +kernel)
      koreaderId (by decide +kernel)).1⟩

/-- While the helper exports the data, the application is launched, and another client has
    the data imported. -/
theorem launch_during_export :
    let exporting := (Look.toManager.map SyncMove.look ++ SyncMove.exporting 1).foldl Syncs.next
      (Syncs.boot [koreader, cloudSync] (fun _ => none) [])
    let launched := ((Look.takeUp 1 (.launch koreaderId none) ++ Look.goOn loopTask 28).map SyncMove.look).foldl Syncs.next exporting
    let both := (SyncMove.exporting 2).foldl Syncs.next exporting
    exporting.exchanges koreaderId = true ∧ launched.exchanges koreaderId = true ∧
      launched.lookout.shared.units koreaderId = true ∧ both.helpers = [(2, koreaderId), (1, koreaderId)] := by
  decide +kernel

end Remagic.Daemon
