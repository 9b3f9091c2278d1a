import Remagic.DaemonFreezer
import Remagic.DaemonPackages

/-!
# Jobs among frozen applications

Every job of the daemon thaws what it recorded as frozen before it goes to it, and freezes
an application only on its way to the background.
-/

namespace Remagic.Daemon
open Supervisor
open Programs (Program Assertion)
open Programs.Job (Spec Keeps keeps_pure keeps_throw keeps_bind keeps_ite keeps_outcome keeps_mapError keeps_doIf)

section
variable {me : Nat} {id : AppId} {grip : Grip} {course : Course} {α β : Type} {queued : QueuedEvent}
  {manifest : AppManifest} {fence : Option ForegroundFence} {openPath : Option String}

/-! ## Jobs under the transition lock -/

/-- What the task knows is kept on the way to what it does then. -/
theorem kept_bind {P : Assertion (freezeContract me)} {Q : α → Assertion (freezeContract me)}
    {F : String → Assertion (freezeContract me)}
    {job : Job β} {next : β → Job α} (first : Keeps (freezing me) P job) (fails : ∀ error s, P s → F error s)
    (second : ∀ result, Spec (freezing me) P (next result) Q F) : Spec (freezing me) P (job >>= next) Q F :=
  Spec.bind (first.weaken (fun _ h => h) (fun _ _ h => h) fails) second

theorem Under.settle {s : Freezer} (holds : Under me id .warm course s) : Under me id .settled course s :=
  ⟨holds.1, holds.2.1, fun there => absurd there holds.2.2.1, holds.2.2.2⟩

/-- The unit is thawed, or it would be by the policy. -/
theorem thawIfFrozen_spec {policy : Option BackgroundExecution} {describe : String → String} :
    Spec (freezing me) (Under me id (.recorded policy) course) (thawIfFrozen policy id describe)
      (fun _ => Under me id .settled course) fun _ => Under me id .loose .any := by
  unfold thawIfFrozen
  split
  · refine Spec.bind (isActive_spec.weaken (fun _ h => h) (fun _ _ h => h) fun _ _ h => Under.loosen h) fun active => ?_
    cases active with
    | false => exact Programs.Job.spec_pure fun _ holds => Under.settle holds
    | true =>
      refine (Spec.mapError thaw_spec fun _ _ holds => ?_).weaken (fun _ h => h) (fun _ _ holds => Under.settle holds) fun _ _ h => h
      exact Under.loosen holds
  · rename_i keeps
    refine Programs.Job.spec_pure fun s holds => ⟨holds.1, holds.2.1, fun there frozen => ?_, holds.2.2.2⟩
    have known : s.daemon.backgroundExecution id = policy := holds.2.2.1 there
    rw [← known, frozen] at keeps
    exact absurd rfl keeps

theorem edit_under {change : Edit} (process : change.kind = .process) :
    Keeps (freezing me) (Under me id .loose course) (edit change) :=
  edit_spec _ process fun _ _ => trivial

theorem clearRuntimeTracking_under : Keeps (freezing me) (Under me id .loose .any) (clearRuntimeTracking id) := by
  unfold clearRuntimeTracking
  exact keeps_bind (under_calm (by grind)) fun _ => keeps_bind (edit_under rfl) fun _ => under_calm (by grind)

/-! ### The stock system -/

theorem Under.elsewhere {other : AppId} {left : Option (List AppId)} {s : Freezer}
    (holds : Under me id grip (.restoring left) s) :
    Under me other .loose (.restoring left) s := ⟨holds.1, holds.2.1, trivial, holds.2.2.2⟩

theorem stopManagedApp_spec {left : List AppId} :
    Spec (freezing me) (Under me id .loose (.restoring (some left))) (stopManagedApp manifest)
      (fun _ => Under me id .loose (.restoring (some (leaving manifest.id left)))) fun _ => Under me id .loose .any := by
  have here : Spec (freezing me) (Under me manifest.id .loose (.restoring (some left))) (stopManagedApp manifest)
      (fun _ => Under me manifest.id .warm (.restoring (some (leaving manifest.id left)))) fun _ => Under me manifest.id .loose .any := by
    unfold stopManagedApp
    refine Spec.bind policy_spec fun policy => Spec.bind thawIfFrozen_spec fun _ => ?_
    refine Spec.bind (stop_spec.weaken (fun _ h => h) (fun _ _ h => h) fun _ _ h => Under.loosen h) fun _ => ?_
    exact kept_bind (under_still (by grind) (by grind)) (fun _ _ h => Under.loosen h) fun _ => Programs.Job.spec_pure fun _ h => h
  exact here.weaken (fun _ h => Under.elsewhere h) (fun _ _ h => Under.elsewhere h) fun _ _ h => Under.loosen h

/-- Application after application is stopped, until none that is frozen is left. -/
theorem stopEach_spec (manifests : List AppManifest) :
    ∀ left : List AppId, (∀ other ∈ left, other ∈ manifests.map AppManifest.id) →
    Spec (freezing me) (Under me id .loose (.restoring (some left))) (Programs.Job.each stopManagedApp manifests)
      (fun _ => Under me id .loose (.restoring (some []))) fun _ => Under me id .loose .any := by
  induction manifests with
  | nil =>
    intro left among
    have none : left = [] := List.eq_nil_iff_forall_not_mem.mpr fun other there => List.not_mem_nil (among other there)
    rw [none]
    exact Programs.Job.spec_pure fun _ h => h
  | cons manifest rest ih =>
    intro left among
    refine Spec.bind stopManagedApp_spec fun _ => ih _ fun other there => ?_
    obtain ⟨before, apart⟩ := mem_leaving.mp there
    rcases List.mem_cons.mp (among other before) with here | later
    · exact absurd here apart
    · exact later

theorem stopManagedApps_spec : Spec (freezing me) (Under me id .loose (.restoring none)) stopManagedApps
    (fun _ => Under me id .loose (.restoring (some []))) fun _ => Under me id .loose .any := by
  unfold stopManagedApps
  exact Spec.bind manifests_spec fun manifests => stopEach_spec manifests _ fun _ there => there

theorem restoreSystem_spares : Spares me restoreSystem := by
  unfold restoreSystem
  -- no application in particular
  refine locked_spares diaryId (keeps_bind (under_calm (by grind)) fun domain => ?_)
  split
  · exact keeps_pure ()
  refine Spec.bind beginRestore_course fun _ => ?_
  iterate 4 refine kept_bind (under_still (by grind) (by grind)) (fun _ _ h => Under.loosen h) fun _ => ?_
  refine Spec.bind stopManagedApps_spec fun _ => Spec.bind stopEveryApp_spec fun _ => ?_
  iterate 3 refine keeps_bind (under_calm (by grind)) fun _ => ?_
  exact keeps_bind (edit_under rfl) fun _ => under_calm (by grind)

/-! ### Parking -/

theorem sendBackgroundIfSupported_under :
    Keeps (freezing me) (Under me id .warm .aside) (sendBackgroundIfSupported id manifest fence) := by
  unfold sendBackgroundIfSupported
  refine keeps_ite (fun _ => keeps_pure _) fun _ => ?_
  refine keeps_bind (under_still (by grind) (by grind)) fun _ => keeps_bind (under_still (by grind) (by grind)) fun _ => ?_
  exact keeps_bind (tell_warm (.inr rfl)) fun _ => under_still (by grind) (by grind)

theorem completePark_spec {showManager : Bool} :
    Spec (freezing me) (Under me id .warm .aside) (completePark id manifest fence showManager)
      (fun _ => Under me id .loose .any) fun _ => Under me id .loose .any := by
  unfold completePark
  refine kept_bind sendBackgroundIfSupported_under (fun _ _ h => Under.loosen h) fun _ => ?_
  iterate 8 refine kept_bind (under_still (by grind) (by grind)) (fun _ _ h => Under.loosen h) fun _ => ?_
  refine Spec.bind (M := fun _ => Under me id .loose .any) ?_ fun _ => under_calm (by grind)
  exact Programs.Job.spec_doIf (fun _ => Spec.mapError freeze_spec fun _ _ h => h) fun _ _ h => Under.loosen h

/-- The thaw before the application comes to the foreground again. -/
theorem thawed_spec {policy : BackgroundExecution} {describe : String → String} {F : String → Assertion (freezeContract me)}
    (fails : ∀ error s, Under me id (.recorded (some policy)) .any s → F error s) :
    Spec (freezing me) (Under me id (.recorded (some policy)) .any)
      (Programs.Job.doIf policy.freezesProcess (Programs.Job.mapError describe (call (.thawAndWait (.app id)))))
      (fun _ => Under me id (.recorded (some .keep)) .any) F := by
  refine Programs.Job.spec_doIf (fun _ => ?_) fun keeps s holds => ?_
  · refine (Spec.mapError thaw_spec fun error s holds => fails _ s holds).weaken (fun _ h => h) (fun _ s holds => ?_) fun _ _ h => h
    exact ⟨holds.1, holds.2.1, fun there => absurd there holds.2.2.1, trivial⟩
  · cases policy with
    | keep => exact holds
    | freeze => cases keeps

theorem commitRestoredForeground_under {token : AppToken} :
    Keeps (freezing me) (Under me token.appId .warm .any) (commitRestoredForeground token) := by
  unfold commitRestoredForeground holding
  refine keeps_bind (under_calm (by grind)) fun _ => keeps_bind (keeps_outcome ?_) fun _ => under_calm (by grind)
  iterate 4 refine keeps_bind (under_calm (by grind)) fun _ => ?_
  exact keeps_bind (front_spec (.inr rfl)) fun _ => under_calm (by grind)

theorem restoreForegroundAfterFailedPark_under {fence : ForegroundFence} :
    Keeps (freezing me) (Under me id .loose .any) (restoreForegroundAfterFailedPark id manifest fence) := by
  unfold restoreForegroundAfterFailedPark
  iterate 3 refine keeps_bind (under_calm (by grind)) fun _ => ?_
  refine Spec.bind policy_spec fun policy => ?_
  cases policy with
  | none => exact Programs.Job.spec_throw fun _ h => Under.loosen h
  | some policy =>
    show Spec (freezing me) _ (Programs.Job.doIf policy.freezesProcess _ >>= _) _ _
    refine Spec.bind (thawed_spec fun _ _ h => Under.loosen h) fun _ => ?_
    iterate 6 refine kept_bind (under_calm (by grind)) (fun _ _ h => Under.loosen h) fun _ => ?_
    refine Spec.bind (enterForeground_spec.weaken (fun _ h => h) (fun _ _ h => h) fun _ _ h => Under.loosen h) fun _ => ?_
    iterate 3 refine kept_bind (under_calm (by grind)) (fun _ _ h => Under.loosen h) fun _ => ?_
    exact Spec.weaken commitRestoredForeground_under (fun _ h => h) (fun _ _ h => Under.loosen h) fun _ _ h => Under.loosen h

theorem forceStopAfterFailedPark_under : Keeps (freezing me) (Under me id .loose .any) (forceStopAfterFailedPark id) := by
  unfold forceStopAfterFailedPark
  refine Spec.bind policy_spec fun policy => Spec.bind thawIfFrozen_spec fun _ => ?_
  refine Spec.bind (M := fun _ => Under me id .loose .any) ?_ fun _ => ?_
  · exact (Spec.mapError stop_spec fun _ _ h => Under.loosen h).weaken (fun _ h => h) (fun _ _ h => Under.loosen h) fun _ _ h => h
  · exact keeps_bind (under_calm (by grind)) fun _ => keeps_bind clearRuntimeTracking_under fun _ => under_calm (by grind)

theorem recoverFailedPark_under :
    Keeps (freezing me) (Under me id .loose .any) (recoverFailedPark id manifest fence) := by
  unfold recoverFailedPark
  refine keeps_bind (keeps_outcome ?_) fun restored => ?_
  · cases fence with
    | some fence => exact restoreForegroundAfterFailedPark_under
    | none => exact keeps_throw _
  · cases restored with
    | ok _ => exact keeps_pure _
    | error error => exact keeps_bind (keeps_mapError forceStopAfterFailedPark_under) fun _ => keeps_pure _

theorem park_spares {returningSystem showManager : Bool} : Spares me (park id returningSystem showManager) := by
  unfold park
  refine locked_spares id (keeps_bind (under_calm (by grind)) fun _ => keeps_bind (under_calm (by grind)) fun manifest => ?_)
  refine keeps_bind (under_calm (by grind)) fun fence => Spec.bind beginPark_spec fun _ => ?_
  refine Spec.bind (M := fun _ => Under me id .loose .any) ?_ fun completed => ?_
  · refine (Spec.outcome (G := fun _ => Under me id .loose .any) completePark_spec).weaken (fun _ h => h) (fun completed s holds => ?_)
      fun _ _ h => h
    cases completed <;> exact holds
  · cases completed with
    | ok _ => exact keeps_pure ()
    | error cause =>
      refine keeps_bind (keeps_outcome recoverFailedPark_under) fun recovered => ?_
      cases recovered <;> exact keeps_throw _

/-! ### Launching -/

/-- Whatever is not frozen is recorded as anything. -/
theorem Under.record {policy : Option BackgroundExecution} {s : Freezer} (holds : Under me id .warm course s) :
    Under me id (.recorded policy) course s := ⟨holds.1, holds.2.1, fun there => absurd there holds.2.2.1, holds.2.2.2⟩

/-- A process of which the daemon knows too little is thawed and stopped. -/
theorem validateExistingRuntime_spec : Spec (freezing me) (Under me id .loose .any) (validateExistingRuntime id)
    (fun active => Under me id (if active then .loose else .warm) .any) fun _ => Under me id .loose .any := by
  unfold validateExistingRuntime
  refine Spec.bind isActive_spec fun active => ?_
  iterate 3 refine kept_bind (under_calm (by grind)) (fun _ _ h => Under.loosen h) fun _ => ?_
  cases active with
  | false => exact Programs.Job.spec_pure fun _ h => h
  | true =>
    show Spec (freezing me) (Under me id .loose .any) _ _ _
    split
    · refine Spec.bind triedThaw_spec fun thawed => Spec.bind triedStop_spec fun stopped => ?_
      cases stopped with
      | error stopError => cases thawed <;> exact Programs.Job.spec_throw fun _ h => Under.loosen h
      | ok _ =>
        show Spec (freezing me) (Under me id .warm .any) _ _ _
        iterate 3 refine kept_bind (under_calm (by grind)) (fun _ _ h => Under.loosen h) fun _ => ?_
        exact Spec.bind (edit_spec .warm rfl fun _ warm => warm) fun _ => Programs.Job.spec_pure fun _ h => h
    · exact Programs.Job.spec_pure fun _ h => h

/-- What a launch knows of its application. -/
def LaunchContext.gripped (context : LaunchContext) : Grip :=
  if context.active then .recorded (some context.backgroundExecution) else .warm

theorem prepareLaunch_gripped :
    Spec (freezing me) (Under me id .loose .any) (prepareLaunch id openPath)
    (fun context => Under me context.id context.gripped .any) fun _ => Under me id .loose .any := by
  unfold prepareLaunch
  iterate 6 refine kept_bind (under_calm (by grind)) (fun _ _ h => h) fun _ => ?_
  refine Spec.bind validateExistingRuntime_spec fun active => ?_
  cases active with
  | false =>
    show Spec (freezing me) (Under me id .warm .any) _ _ _
    iterate 6 refine kept_bind (under_calm (by grind)) (fun _ _ h => Under.loosen h) fun _ => ?_
    exact Programs.Job.spec_pure fun _ h => h
  | true =>
    show Spec (freezing me) (Under me id .loose .any) _ _ _
    iterate 2 refine kept_bind (under_calm (by grind)) (fun _ _ h => h) fun _ => ?_
    refine Spec.bind policy_spec fun captured => ?_
    cases captured with
    | none => exact Programs.Job.spec_throw fun _ h => Under.loosen h
    | some policy =>
      show Spec (freezing me) (Under me id (.recorded (some policy)) .any) (pure policy >>= _) _ _
      refine Spec.bind (M := fun execution => (Under me id (.recorded (some policy)) .any).and (Assertion.fact (execution = policy)))
        (Programs.Job.spec_pure fun _ h => ⟨h, rfl⟩) fun execution => Spec.of_fact ?_
      rintro rfl
      iterate 2 refine kept_bind (under_calm (by grind)) (fun _ _ h => Under.loosen h) fun _ => ?_
      exact Programs.Job.spec_pure fun _ h => h

section
variable {context : LaunchContext}

/-- Whatever became of the launch, its policy is the one on record. -/
theorem Under.gripped {s : Freezer} (holds : Under me context.id context.gripped .any s) :
    Under me context.id (.recorded (some context.backgroundExecution)) .any s := by
  unfold LaunchContext.gripped at holds
  cases active : context.active with
  | true =>
    rw [active] at holds
    exact holds
  | false =>
    rw [active] at holds
    exact Under.record holds

theorem registerRuntime_gripped : Keeps (freezing me) (Under me context.id context.gripped .any) (registerRuntime context) := by
  unfold registerRuntime
  refine keeps_bind (under_calm (by grind)) fun _ => keeps_bind (edit_spec _ rfl fun s known => ?_) fun _ => under_calm (by grind)
  unfold LaunchContext.gripped at known ⊢
  cases active : context.active with
  | true => exact fun _ => Function.update_self ..
  | false =>
    rw [active] at known
    exact known

theorem resumeOrStart_spec : Spec (freezing me) (Under me context.id context.gripped .any) (resumeOrStart context)
    (fun _ => Under me context.id .warm .any) fun _ => Under me context.id (.recorded (some context.backgroundExecution)) .any := by
  unfold resumeOrStart LaunchContext.gripped
  cases active : context.active with
  | true =>
    show Spec (freezing me) (Under me context.id (.recorded (some context.backgroundExecution)) .any)
      (Programs.Job.doIf context.backgroundExecution.freezesProcess _ >>= _) _ _
    refine Spec.bind (thawed_spec fun _ _ h => h) fun _ => ?_
    exact enterForeground_spec.weaken (fun _ h => h) (fun _ _ h => h) fun _ _ h => Under.record h
  | false =>
    show Spec (freezing me) (Under me context.id .warm .any) (call (.clearPhaseMarkers context.id) >>= _) _ _
    refine kept_bind (under_calm (by grind)) (fun _ _ h => Under.record h) fun _ => ?_
    exact Spec.weaken (under_calm (by grind)) (fun _ h => h) (fun _ _ h => h) fun _ _ h => Under.record h

theorem activateAndWait_spec :
    Spec (freezing me) (Under me context.id context.gripped .any)
    (activateAndWait context queued) (fun _ => Under me context.id .warm .any)
    fun _ => Under me context.id (.recorded (some context.backgroundExecution)) .any := by
  unfold activateAndWait
  iterate 2 refine kept_bind (under_calm (by grind)) (fun _ _ h => Under.gripped h) fun _ => ?_
  refine kept_bind registerRuntime_gripped (fun _ _ h => Under.gripped h) fun _ => Spec.bind resumeOrStart_spec fun _ => ?_
  exact Spec.weaken (under_calm (by grind)) (fun _ h => h) (fun _ _ h => h) fun _ _ h => Under.record h

theorem commitLaunch_under : Keeps (freezing me) (Under me context.id .warm .any) (commitLaunch context queued) := by
  unfold commitLaunch holding
  iterate 5 refine keeps_bind (under_calm (by grind)) fun _ => ?_
  refine keeps_bind (under_calm (by grind)) fun _ => keeps_bind (keeps_outcome ?_) fun _ => under_calm (by grind)
  iterate 5 refine keeps_bind (under_calm (by grind)) fun _ => ?_
  exact front_spec (.inl rfl)

theorem rollbackLaunch_spec : Spec (freezing me) (Under me context.id (.recorded (some context.backgroundExecution)) .any)
    (rollbackLaunch context) (fun _ => Under me context.id .loose .any) fun _ => Under me context.id .loose .any := by
  unfold rollbackLaunch
  refine Spec.bind thawIfFrozen_spec fun _ => Spec.bind (M := fun _ => Under me context.id .loose .any) ?_ fun _ => ?_
  · exact (Spec.mapError stop_spec fun _ _ h => Under.loosen h).weaken (fun _ h => h) (fun _ _ h => Under.loosen h) fun _ _ h => h
  iterate 2 refine keeps_bind (under_calm (by grind)) fun _ => ?_
  exact keeps_bind clearRuntimeTracking_under fun _ => under_calm (by grind)

theorem rollbackError_spec {cause : String} :
    Spec (freezing me) (Under me context.id (.recorded (some context.backgroundExecution)) .any)
    (rollbackError context cause) (fun _ => Under me context.id .loose .any) fun _ => Under me context.id .loose .any := by
  unfold rollbackError
  refine Spec.bind (M := fun _ => Under me context.id .loose .any) ?_ fun rolled => ?_
  · refine (Spec.outcome (G := fun _ => Under me context.id .loose .any) rollbackLaunch_spec).weaken (fun _ h => h)
      (fun rolled s holds => ?_) fun _ _ h => h
    cases rolled <;> exact holds
  · cases rolled with
    | ok _ => exact under_calm (by grind)
    | error error => exact keeps_pure _

end

theorem launchFromManager_under :
    Keeps (freezing me) (Under me id .loose .any) (launchFromManager id openPath queued) := by
  unfold launchFromManager
  iterate 2 refine keeps_bind (under_calm (by grind)) fun _ => ?_
  refine Spec.bind prepareLaunch_gripped fun context => ?_
  have rolledBack : ∀ error, Spec (freezing me) (Under me context.id (.recorded (some context.backgroundExecution)) .any)
      (rollbackError context error >>= fun cause => (throw cause : Job Unit)) (fun _ => Under me id .loose .any)
      fun _ => Under me id .loose .any := fun error =>
    Spec.bind (rollbackError_spec.weaken (fun _ h => h) (fun _ _ h => Under.loosen h) fun _ _ h => Under.loosen h)
      fun _ => keeps_throw _
  refine kept_bind (under_calm (by grind)) (fun _ _ h => Under.loosen h) fun launched => ?_
  cases launched with
  | error error =>
    refine kept_bind (under_calm (by grind)) (fun _ _ h => Under.loosen h) fun _ => ?_
    exact Programs.Job.spec_throw fun _ h => Under.loosen h
  | ok _ =>
    refine Spec.bind (Spec.outcome activateAndWait_spec) fun activated => ?_
    cases activated with
    | error error => exact rolledBack error
    | ok _ =>
      refine kept_bind (keeps_outcome commitLaunch_under) (fun _ _ h => Under.loosen h) fun committed => ?_
      cases committed with
      | error error => exact (rolledBack error).before fun _ h => Under.record h
      | ok _ => exact Programs.Job.spec_pure fun _ h => Under.loosen h

theorem launch_spares : Spares me (launch id openPath queued) := by
  have current : Spares me (launchCurrent id openPath queued) := by
    unfold launchCurrent
    exact keeps_bind (spares_calm (by grind)) fun _ => locked_spares id launchFromManager_under
  unfold launch
  iterate 3 refine keeps_bind (spares_calm (by grind)) fun _ => ?_
  split
  · exact keeps_pure ()
  · exact keeps_bind park_spares fun _ => current
  · exact current

/-! ### Closing and exits -/

theorem closeReserved_under {complete wasForeground : Bool} {manifest : Option AppManifest} :
    Keeps (freezing me) (Under me id .loose .any) (closeReserved id complete wasForeground manifest) := by
  unfold closeReserved thawBeforeShutdown requestShutdown
  refine Spec.bind (M := fun _ => Under me id .settled .any) (Spec.bind policy_spec fun policy => thawIfFrozen_spec) fun _ => ?_
  refine Spec.bind (M := fun _ => Under me id .settled .any) ?_ fun _ => ?_
  · refine kept_bind (under_calm (by grind)) (fun _ _ h => Under.loosen h) fun active => ?_
    split
    · exact Spec.bind shutdown_spec fun _ => Programs.Job.spec_pure fun _ h => h
    · exact Programs.Job.spec_pure fun _ h => h
  refine kept_bind (under_calm (by grind)) (fun _ _ h => Under.loosen h) fun _ => ?_
  refine Spec.bind (M := fun _ => Under me id .loose .any)
    (stop_spec.weaken (fun _ h => h) (fun _ _ h => Under.loosen h) fun _ _ h => Under.loosen h) fun _ => ?_
  exact keeps_bind clearRuntimeTracking_under fun _ => under_calm (by grind)

theorem close_spares {complete : Bool} : Spares me (close id complete) := by
  unfold close
  refine locked_spares id ?_
  iterate 3 refine keeps_bind (under_calm (by grind)) fun _ => ?_
  refine keeps_bind (keeps_outcome closeReserved_under) fun closed => ?_
  cases closed with
  | ok _ => exact keeps_pure ()
  | error error => exact keeps_bind (under_calm (by grind)) fun _ => keeps_throw error

theorem recordRuntimeExit_spares {generation : Nat} {exitCode : Int} {crashed : Bool} {source : ExitReportSource} :
    Spares me (recordRuntimeExit id generation exitCode crashed source) := by
  unfold recordRuntimeExit
  refine locked_spares id (keeps_bind (under_calm (by grind)) fun _ => keeps_ite (fun _ => keeps_pure ()) fun _ => ?_)
  refine keeps_bind (under_calm (by grind)) fun _ => keeps_bind (under_calm (by grind)) fun _ => ?_
  refine keeps_ite (fun _ => keeps_pure ()) fun _ => keeps_bind (under_calm (by grind)) fun _ => ?_
  exact keeps_bind (edit_under rfl) fun _ => under_calm (by grind)

/-! ## What the tasks do -/

theorem ensureManagerOrRestore_spares : Spares me ensureManagerOrRestore := by
  unfold ensureManagerOrRestore
  refine keeps_bind (spares_calm (by grind)) fun ensured => ?_
  cases ensured with
  | ok _ => exact keeps_pure ()
  | error error => exact restoreSystem_spares

theorem singlePower_spares : Spares me (singlePower queued) := by
  unfold singlePower
  refine keeps_bind (spares_calm (by grind)) fun domain => ?_
  cases domain with
  | manager =>
    refine keeps_bind (spares_calm (by grind)) fun last => ?_
    cases last with
    | none => exact keeps_pure ()
    | some app => exact launch_spares
  | foreground app => exact park_spares
  | _ => exact spares_calm (by grind)

theorem triplePower_spares : Spares me triplePower := by
  unfold triplePower
  refine keeps_bind (spares_calm (by grind)) fun domain => ?_
  cases domain with
  | foreground app => exact keeps_bind park_spares fun _ => restoreSystem_spares
  | manager => exact restoreSystem_spares
  | sleeping => exact restoreSystem_spares
  | _ => exact spares_calm (by grind)

theorem openManager_spares : Spares me openManager := by
  unfold openManager
  refine keeps_bind (spares_calm (by grind)) fun domain => ?_
  cases domain with
  | foreground app => exact park_spares
  | _ => exact spares_calm (by grind)

theorem handleAutoSleep_spares {activityRevision : Nat} : Spares me (handleAutoSleep activityRevision queued) := by
  unfold handleAutoSleep
  refine keeps_bind (spares_calm (by grind)) fun _ => keeps_ite (fun _ => keeps_pure ()) fun _ => ?_
  refine keeps_bind (spares_calm (by grind)) fun _ => keeps_ite (fun _ => keeps_pure ()) fun _ => ?_
  refine keeps_bind (spares_calm (by grind)) fun domain => ?_
  cases domain with
  | foreground app => exact keeps_bind park_spares fun _ => spares_calm (by grind)
  | _ => exact spares_calm (by grind)

theorem handleCoverClosed_spares : Spares me (handleCoverClosed queued) := by
  unfold handleCoverClosed
  refine keeps_bind (spares_calm (by grind)) fun _ => keeps_bind (spares_calm (by grind)) fun domain => ?_
  cases domain with
  | foreground app =>
    exact keeps_bind (spares_calm (by grind)) fun _ => keeps_bind park_spares fun _ => spares_calm (by grind)
  | _ => exact spares_calm (by grind)

theorem reloadManifests_spares : Spares me reloadManifests := by
  unfold reloadManifests
  iterate 3 refine keeps_bind (spares_calm (by grind)) fun _ => ?_
  refine keeps_bind (spares_calm (by grind)) fun domain => keeps_ite (fun _ => ?_) fun _ => keeps_pure ()
  refine keeps_bind (spares_calm (by grind)) fun restarted => ?_
  cases restarted with
  | ok _ => exact keeps_pure ()
  | error error => exact restoreSystem_spares

theorem changePackage_spares {request : PackageRequest} : Spares me (changePackage request) := by
  unfold changePackage
  cases request with
  | install found =>
    iterate 3 refine keeps_bind (spares_calm (by grind)) fun _ => ?_
    exact keeps_bind (keeps_doIf close_spares) fun _ => spares_calm (by grind)
  | upgrade expected found =>
    iterate 4 refine keeps_bind (spares_calm (by grind)) fun _ => ?_
    exact keeps_bind close_spares fun _ => spares_calm (by grind)
  | rollback app =>
    iterate 2 refine keeps_bind (spares_calm (by grind)) fun _ => ?_
    exact keeps_bind close_spares fun _ => spares_calm (by grind)
  | uninstall app =>
    iterate 3 refine keeps_bind (spares_calm (by grind)) fun _ => ?_
    exact keeps_bind close_spares fun _ => spares_calm (by grind)

theorem packageReply_spares {request : PackageRequest} : Spares me (packageReply request) := by
  unfold packageReply holding
  refine keeps_bind (spares_calm (by grind)) fun _ => keeps_bind (keeps_outcome ?_) fun _ => spares_calm (by grind)
  exact keeps_bind changePackage_spares fun _ => reloadManifests_spares

theorem handleDisplayHostExited_spares {stateSequence sleepRevision : Nat} :
    Spares me (handleDisplayHostExited stateSequence sleepRevision) := by
  unfold handleDisplayHostExited
  refine keeps_bind (spares_calm (by grind)) fun _ => keeps_bind (spares_calm (by grind)) fun _ => ?_
  exact keeps_ite (fun _ => restoreSystem_spares) fun _ => keeps_pure ()

theorem recoverAfterFailure_spares {answered : Except String Unit} : Spares me (recoverAfterFailure answered) := by
  cases answered with
  | ok _ => exact keeps_pure ()
  | error error =>
    unfold recoverAfterFailure
    refine keeps_bind (spares_calm (by grind)) fun domain => ?_
    cases domain with
    | system => exact keeps_pure ()
    | foreground app => exact keeps_pure ()
    | manager => exact ensureManagerOrRestore_spares
    | sleeping =>
      refine keeps_bind (spares_calm (by grind)) fun healthy => keeps_ite (fun _ => keeps_pure ()) fun _ => restoreSystem_spares
    | _ => exact restoreSystem_spares

theorem handleEvent_spares : Spares me (handleEvent queued) := by
  unfold handleEvent
  cases queued.event with
  | singlePower => exact singlePower_spares
  | triplePower => exact triplePower_spares
  | longPower => exact restoreSystem_spares
  | returnSystem => exact restoreSystem_spares
  | launch app openPath => exact launch_spares
  | runtimeLaunch authority app openPath => exact keeps_bind (spares_calm (by grind)) fun _ => launch_spares
  | openManager => exact openManager_spares
  | coverClosed => exact handleCoverClosed_spares
  | autoSleep activityRevision => exact handleAutoSleep_spares
  | close app complete => exact close_spares
  | runtimeExited app generation exitCode crashed source => exact recordRuntimeExit_spares
  | displayHostExited stateSequence sleepRevision => exact handleDisplayHostExited_spares
  | appReady app => exact recordAppReady_spares
  | reloadManifests => exact reloadManifests_spares
  | _ => exact spares_calm (by grind)

theorem answerOnly_spares {job : Job Bool} (spares : Spares me job) :
    (answerOnly job).Spec (freezing me) (Lively me) fun _ => Lively me :=
  Program.Spec.bind spares.run fun _ => Program.spec_pure fun _ lively => lively

/-- Every task spares the applications that are frozen. -/
theorem Role.spares {role : Role} : role.program.Spec (freezing me) (Lively me) fun _ => Lively me := by
  cases role with
  | serving queued =>
    refine Program.Spec.bind (M := fun _ => Lively me) ?_ fun answered => ?_
    · refine Program.Spec.bind (M := fun _ => Lively me) (Program.spec_op ?_) fun cancelled => ?_
      · intro s lively _ answer mindful
        have careful := Op.calm_careful (by simp [Op.errand]) mindful answer
        exact ⟨careful, careful.lively lively⟩
      · cases cancelled with
        | true => exact Program.spec_pure fun _ lively => lively
        | false => exact handleEvent_spares.run
    · exact Program.Spec.bind recoverAfterFailure_spares.run fun _ => Program.spec_pure fun _ lively => lively
  | package request => exact answerOnly_spares (keeps_bind packageReply_spares fun _ => keeps_pure _)
  | inputMode token mode => exact answerOnly_spares (spares_calm (by grind))
  | runnerExit app generation exitCode crashed => exact answerOnly_spares (spares_calm (by grind))
  | handoff authority app openPath => exact answerOnly_spares (spares_calm (by grind))

end

end Remagic.Daemon
