import Remagic.ContentIdentity
import Remagic.PackageRuns

/-!
# Installed releases are genuine

A release directory is only ever a verified stage that was renamed, with the modes of its
files changed and files removed from it. So in every run, wherever an operation stops,
each file of a release is one that a verified bundle of that content lists.
-/

namespace Remagic.Package
open Tasks Job
open Fallible (ok_of_bind ok_of_guard mapM_ok)

variable {Content : Type} {formats : Formats Content} {booksRoot : Path} {disk d before after : Disk Content}
  {app : AppId} {tree : Tree Content}

/-! ## What every step keeps -/

section Preserves
variable {α β : Type} {P : Disk Content → Prop}

/-- Started where `P` holds, the job stands where `P` holds at every point and at its end. -/
def Preserves (P : Disk Content → Prop) (job : Transaction Content α) : Prop :=
  ∀ log disk, P disk → Keeps (fun _ => True) (fun _ => P) (fun _ _ _ => True) (fun _ _ => P) job log disk

theorem quiet : Fails (fun _ => True) (fun _ => P) fun _ _ _ => True := fun _ _ _ _ _ => trivial

theorem preserves_pure (result : α) : Preserves P (pure result : Transaction Content α) :=
  fun _ _ stands => keeps_pure stands stands

theorem preserves_throw (error : PackageError) : Preserves P (throw error : Transaction Content α) :=
  fun _ _ stands => keeps_throw stands trivial

theorem Preserves.bind {job : Transaction Content β} {next : β → Transaction Content α} (first : Preserves P job)
    (second : ∀ result, Preserves P (next result)) : Preserves P (job >>= next) :=
  fun log disk stands => keeps_bind (first log disk stands) fun result log disk _ kept => second result log disk kept

theorem Preserves.guarded {condition : Prop} [Decidable condition] {error : PackageError}
    {next : Transaction Content α} (rest : Preserves P next) : Preserves P (do
      if condition then throw error
      next) :=
  fun log disk stands => keeps_guard stands (fun _ => trivial) fun _ => rest log disk stands

theorem preserves_each {job : β → Transaction Content Unit} (one : ∀ item, Preserves P (job item)) (items : List β) :
    Preserves P (each job items) :=
  fun _ _ stands => keeps_each (R := fun _ _ => P) (fun _ _ _ kept => kept)
    (fun item _ log disk _ kept => one item log disk kept) stands

theorem Preserves.outcome {job : Transaction Content α} (first : Preserves P job) : Preserves P (Job.outcome job) :=
  fun log disk stands => keeps_outcome ((first log disk stands).weaken (fun _ _ kept => kept)
    (fun _ _ _ kept _ => kept) fun _ _ _ _ kept => kept)

theorem preserves_look (place : Place) (view : Disk Content → α) : Preserves P (look place view) :=
  fun _ _ stands => keeps_look quiet stands stands

theorem preserves_glance (view : Disk Content → Option α) : Preserves P (glance view) :=
  fun _ _ stands => keeps_glance stands (fun _ => stands) stands

theorem preserves_checked (verdict : Except PackageError α) : Preserves P (checked verdict : Transaction Content α) :=
  fun _ _ stands => keeps_checked stands (fun _ _ => trivial) fun _ _ => stands

theorem preserves_readDir (place : Place) (names : Disk Content → List String) : Preserves P (readDir place names) :=
  fun _ _ stands => keeps_readDir quiet stands fun _ _ => stands

theorem preserves_changeWhen (place : Place) (fit : Disk Content → Bool) {run : Disk Content → Disk Content}
    (kept : ∀ disk, P disk → P (run disk)) : Preserves P (changeWhen place fit run) :=
  fun _ disk stands => keeps_changeWhen quiet stands (fun _ => trivial) (fun _ => kept disk stands) fun _ =>
    kept disk stands

theorem preserves_atomicWrite (place : Place) {run : Disk Content → Disk Content}
    (kept : ∀ disk, P disk → P (run disk)) : Preserves P (atomicWrite place run) :=
  fun _ disk stands => keeps_atomicWrite quiet stands (kept disk stands) (kept disk stands)

end Preserves

/-! ## Releases -/

/-- The tree is a part of a stage that passed every check, for a bundle of the application whose
    content the release is named by. -/
def Genuine (formats : Formats Content) (app : AppId) (name : ContentId) (tree : Tree Content) : Prop :=
  ∃ prepared root device stage, verifyStage formats root device stage = .ok prepared ∧ prepared.manifest.id = app ∧
    prepared.bundle.contentId = name ∧ ∀ path file, tree.lookup path = some file →
      ∃ original, stage.lookup path = some original ∧ file.content = original.content

def AllGenuine (formats : Formats Content) (disk : Disk Content) : Prop :=
  ∀ app name tree, (disk.apps app).releases.lookup name = some tree → Genuine formats app name tree

/-- What depends on the releases and the stages alone. -/
structure Unpointed (P : Disk Content → Prop) : Prop where
  pointers : ∀ before after, P before → (∀ app, (after.apps app).releases = (before.apps app).releases) →
    after.staging = before.staging → P after

/-- What depends on the releases and the stages, and not on how much of a release is left. -/
structure Stable (P : Disk Content → Prop) : Prop extends Unpointed P where
  part : ∀ disk app name (run : Tree Content → Tree Content), P disk →
    (∀ tree path file, (run tree).lookup path = some file →
      ∃ original, tree.lookup path = some original ∧ file.content = original.content) →
    P ((releaseSlot app name).edit run disk)
  gone : ∀ disk app name, P disk → P ((releaseSlot app name).set none disk)

theorem chmod_part (tree : Tree Content) (mode : Nat → Nat) (changed path : String) (file : File Content)
    (found : (Tree.chmod tree mode changed).lookup path = some file) :
    ∃ original, tree.lookup path = some original ∧ file.content = original.content := by
  unfold Tree.chmod at found
  cases present : tree.lookup changed with
  | none =>
    rw [present] at found
    exact ⟨file, found, rfl⟩
  | some original =>
    rw [present] at found
    by_cases same : path = changed
    · subst same
      rw [AList.lookup_insert] at found
      cases found
      exact ⟨original, present, rfl⟩
    · rw [AList.lookup_insert_ne same] at found
      exact ⟨file, found, rfl⟩

theorem erase_part (tree : Tree Content) (gone path : String) (file : File Content)
    (found : (tree.erase gone).lookup path = some file) :
    ∃ original, tree.lookup path = some original ∧ file.content = original.content := by
  by_cases same : path = gone
  · subst same
    rw [AList.lookup_erase] at found
    cases found
  · rw [AList.lookup_erase_ne same] at found
    exact ⟨file, found, rfl⟩

theorem Genuine.part {name : ContentId} {tree later : Tree Content} (genuine : Genuine formats app name tree)
    (part : ∀ path file, later.lookup path = some file →
      ∃ original, tree.lookup path = some original ∧ file.content = original.content) :
    Genuine formats app name later := by
  obtain ⟨prepared, root, device, stage, verified, named, contents, listed⟩ := genuine
  refine ⟨prepared, root, device, stage, verified, named, contents, fun path file found => ?_⟩
  obtain ⟨middle, there, same⟩ := part path file found
  obtain ⟨original, first, equal⟩ := listed path middle there
  exact ⟨original, first, same.trans equal⟩

/-- Setting one release changes no other. -/
theorem set_lookup {other : AppId} {name id : ContentId} {tree : Option (Tree Content)} {found : Tree Content}
    (there : ((((releaseSlot app name).set tree disk).apps other).releases).lookup id = some found) :
    (other = app ∧ id = name ∧ tree = some found) ∨ (disk.apps other).releases.lookup id = some found := by
  rw [releaseSlot_set] at there
  by_cases same : other = app
  · subst same
    rw [edit_self] at there
    by_cases named : id = name
    · subst named
      left
      cases tree with
      | none =>
        rw [putTree, AList.lookup_erase] at there
        cases there
      | some tree =>
        rw [putTree, AList.lookup_insert] at there
        exact ⟨rfl, rfl, there⟩
    · rw [lookup_putTree_ne named] at there
      exact .inr there
  · rw [edit_other same] at there
    exact .inr there

theorem allGenuine_stable : Stable (AllGenuine formats : Disk Content → Prop) where
  pointers _ _ genuine same _ app name tree found := genuine app name tree (by rw [← same]; exact found)
  part disk app name run genuine part := by
    unfold Slot.edit
    cases there : (releaseSlot app name).get disk with
    | none => exact genuine
    | some tree =>
      intro other id later found
      rcases set_lookup found with ⟨rfl, rfl, same⟩ | kept
      · cases same
        exact (genuine other id tree there).part (part tree)
      · exact genuine other id later kept
  gone disk app name genuine := by
    intro other id later found
    rcases set_lookup found with ⟨-, -, absent⟩ | kept
    · cases absent
    · exact genuine other id later kept

/-- A stage that passed every check goes with what is stable. -/
theorem Stable.staged {P : Disk Content → Prop} (stable : Stable P) (prepared : PreparedPackage Content) :
    Stable fun disk => P disk ∧ Staged formats prepared disk where
  pointers before after kept same staging := by
    refine ⟨stable.pointers before after kept.1 same staging, ?_⟩
    rw [Staged, staging]
    exact kept.2
  part disk app name run kept part := by
    refine ⟨stable.part disk app name run kept.1 part, ?_⟩
    rcases releaseSlot_edit app name run disk with same | ⟨tree, same⟩
    · rw [same]
      exact kept.2
    · rw [same]
      exact kept.2
  gone disk app name kept := ⟨stable.gone disk app name kept.1, kept.2⟩

theorem Stable.wears {P : Disk Content → Prop} (stable : Stable P) (app : AppId) (name : ContentId) :
    Wears (fun _ => P) (releaseSlot app name) where
  chmod _ disk mode path kept := stable.part disk app name _ kept fun tree other file => chmod_part tree mode path other file
  unlink _ disk path kept := stable.part disk app name _ kept fun tree other file => erase_part tree path other file
  gone _ disk kept := stable.gone disk app name kept

/-! ## Pointers -/

section Unpointed
variable {P : Disk Content → Prop} (unpointed : Unpointed P)
include unpointed

theorem Unpointed.edit (app : AppId) (change : AppFiles Content → AppFiles Content)
    (same : ∀ files, (change files).releases = files.releases) (disk : Disk Content) (stands : P disk) :
    P (disk.edit app change) := by
  refine unpointed.pointers disk _ stands (fun other => ?_) rfl
  by_cases here : other = app
  · subst here
    rw [edit_self, same]
  · rw [edit_other here]

theorem preserves_atomicSymlink (app : AppId) (target : ContentId) : Preserves P (atomicSymlink app target) := by
  intro log disk stands
  have kept : P (setCurrent app (some target) disk) :=
    unpointed.edit app (fun files => { files with current := some target }) (fun _ => rfl) disk stands
  exact keeps_atomicSymlink quiet stands kept kept

theorem preserves_change (place : Place) (app : AppId) {change : AppFiles Content → AppFiles Content}
    (same : ∀ files, (change files).releases = files.releases) :
    Preserves P (Package.change place (Disk.edit app change)) :=
  preserves_changeWhen place _ (unpointed.edit app change same)

theorem preserves_write (place : Place) (app : AppId) {change : AppFiles Content → AppFiles Content}
    (same : ∀ files, (change files).releases = files.releases) :
    Preserves P (atomicWrite place (Disk.edit app change)) :=
  preserves_atomicWrite place (unpointed.edit app change same)

theorem preserves_eraseJournal (app : AppId) :
    Preserves P (changeWhen (.journal app.value) (fun disk => (disk.journals.lookup app.value).isSome)
      (eraseJournal app.value)) :=
  preserves_changeWhen _ _ fun disk stands => unpointed.pointers disk _ stands (fun _ => rfl) rfl

theorem preserves_beginInstall (app : AppId) (prepared : PreparedPackage Content) (targetPreexisted : Bool) :
    Preserves P (beginInstall app prepared targetPreexisted) := by
  refine .bind (preserves_look _ _) fun _ => .bind (preserves_glance _) fun _ => .bind (preserves_look _ _) fun _ => ?_
  exact .bind (preserves_atomicWrite _ fun disk stands => unpointed.pointers disk _ stands (fun _ => rfl) rfl) fun _ =>
    preserves_pure _

end Unpointed

/-! ## Recovery -/

section Stable
variable {P : Disk Content → Prop} (stable : Stable P)
include stable

theorem preserves_removeTree (app : AppId) (name : ContentId) : Preserves P (removeTree (releaseSlot app name)) :=
  fun _ _ stands => (keeps_removeTree quiet (stable.wears app name) (releaseSlot_lawful app name) stands).weaken
    (fun _ _ kept => kept) (fun _ _ _ _ failed => failed) fun _ _ _ _ kept => kept.1

theorem preserves_undo (app : AppId) (journal : TransactionJournalV1 Content) : Preserves P (undo app journal) := by
  refine .bind ?_ fun _ => .bind ?_ fun _ => .bind ?_ fun _ => ?_
  · cases journal.previousContentId with
    | some previous => exact preserves_atomicSymlink stable.toUnpointed app previous
    | none => exact preserves_change stable.toUnpointed _ app fun _ => rfl
  · cases journal.previousManifest with
    | some text => exact preserves_write stable.toUnpointed _ app fun _ => rfl
    | none => exact preserves_change stable.toUnpointed _ app fun _ => rfl
  · cases journal.previousState with
    | some state => exact preserves_write stable.toUnpointed _ app fun _ => rfl
    | none => exact preserves_change stable.toUnpointed _ app fun _ => rfl
  · cases journal.targetPreexisted with
    | true => exact preserves_pure ()
    | false => exact preserves_removeTree stable app journal.targetContentId

theorem preserves_recoverJournal (name : String) : Preserves P (recoverJournal name) := by
  refine .bind (preserves_look _ _) fun found => ?_
  cases found with
  | none => exact preserves_throw _
  | some journal =>
    refine .guarded ?_
    cases AppId.new journal.appId with
    | error rejected => exact preserves_throw _
    | ok app =>
      exact .bind (preserves_undo stable app journal) fun _ =>
        preserves_changeWhen _ _ fun disk stands => stable.pointers disk _ stands (fun _ => rfl) rfl

theorem preserves_recoverAll : Preserves P recoverAll :=
  .bind (preserves_readDir _ _) fun names => preserves_each (preserves_recoverJournal stable) names

theorem preserves_recoverFor (app : AppId) : Preserves P (recoverFor app) := by
  refine .bind (preserves_glance _) fun found => ?_
  cases found.isSome with
  | true => exact preserves_recoverJournal stable app.value
  | false => exact preserves_pure ()

/-! ## Installing -/

omit stable in
theorem preserves_prepareInstallPaths (app : AppId) (prepared : PreparedPackage Content) :
    Preserves P (prepareInstallPaths app prepared) := by
  refine .bind (preserves_look _ _) fun _ => .bind (preserves_look _ _) fun _ => .bind (preserves_look _ _) fun _ =>
    .bind ?_ fun _ => preserves_look _ _
  unfold ensureApplicationDirectories
  cases prepared.manifest.directories with
  | none => exact preserves_pure ()
  | some directories =>
    refine preserves_each (fun path => .guarded ?_) directories.paths
    exact .bind (preserves_look _ _) fun _ => .bind (preserves_look _ _) fun _ => preserves_look _ _

omit stable in
theorem preserves_readState (app : AppId) : Preserves P (readState app) := by
  refine .bind (preserves_look _ _) fun found => ?_
  cases found with
  | none => exact preserves_throw _
  | some state => exact .guarded (preserves_pure state)

theorem preserves_removeStaleReleases (app : AppId) (state : InstalledPackageStateV1) :
    Preserves P (removeStaleReleases app state) := by
  refine .bind (preserves_readDir _ _) fun names => preserves_each (fun name => ?_) names
  split
  · exact preserves_pure ()
  · exact preserves_removeTree stable app name

/-- Publishing, once the release is in its place. -/
theorem preserves_publish (app : AppId) (prepared : PreparedPackage Content) (text : Published Content)
    (state : InstalledPackageStateV1) (outcome : InstallOutcome) {last : Transaction Content Unit} (ends : Preserves P last) :
    Preserves P (do
      writeManifest app text
      atomicSymlink app prepared.bundle.contentId
      writeState app state
      changeWhen (.journal app.value) (fun disk => (disk.journals.lookup app.value).isSome) (eraseJournal app.value)
      last
      removeStaleReleases app state
      return outcome) := by
  have unpointed := stable.toUnpointed
  refine .bind (preserves_write unpointed _ app fun _ => rfl) fun _ => .bind (preserves_atomicSymlink unpointed app _) fun _ => ?_
  refine .bind (preserves_write unpointed _ app fun _ => rfl) fun _ => .bind (preserves_eraseJournal unpointed app) fun _ => ?_
  exact .bind ends fun _ => .bind (preserves_removeStaleReleases stable app _) fun _ => preserves_pure outcome

theorem preserves_publishExistingInstall (unstaged : Unstaged P) (app : AppId) (prepared : PreparedPackage Content)
    (previous : Option ContentId) : Preserves P (publishExistingInstall formats app prepared previous) :=
  .bind (preserves_checked _) fun text => preserves_publish stable app prepared text _ _ fun _ _ stands =>
    keeps_removeStage prepared.stageRoot unstaged quiet stands

end Stable

theorem allGenuine_unstaged : Unstaged (AllGenuine formats : Disk Content → Prop) :=
  fun _ _ genuine same _ app name tree found => genuine app name tree (by rw [← same]; exact found)

/-- A verified stage that is renamed is a genuine release. -/
theorem allGenuine_renamed {prepared : PreparedPackage Content} (genuine : AllGenuine formats disk)
    (staged : Staged formats prepared disk) :
    AllGenuine formats ((stageSlot prepared.stageRoot).set none
      ((releaseSlot prepared.manifest.id prepared.bundle.contentId).set ((stageSlot prepared.stageRoot).get disk) disk)) := by
  obtain ⟨device, stage, there, verified⟩ := staged
  intro app name tree found
  rcases set_lookup found with ⟨rfl, rfl, same⟩ | kept
  · rw [stageSlot_get, there] at same
    cases same
    exact ⟨prepared, prepared.stageRoot, device, stage, verified, rfl, rfl, fun _ file listed => ⟨file, listed, rfl⟩⟩
  · exact genuine app name tree kept

section Install
variable {prepared : PreparedPackage Content} {log : List Place}

/-- From here on the job stands on genuine releases. -/
abbrev GenuineAlong {α : Type} (formats : Formats Content) (job : Transaction Content α) (log : List Place)
    (disk : Disk Content) : Prop :=
  Keeps (fun _ => True) (fun _ => AllGenuine formats) (fun _ _ _ => True) (fun _ _ => AllGenuine formats) job log disk

theorem GenuineAlong.outcome {α : Type} {job : Transaction Content α} (first : GenuineAlong formats job log disk) :
    GenuineAlong formats (Job.outcome job) log disk :=
  keeps_outcome (first.weaken (fun _ _ kept => kept) (fun _ _ _ kept _ => kept) fun _ _ _ _ kept => kept)

/-- A job that leaves the stage alone, before one that needs it. -/
theorem staged_bind {α β : Type} {job : Transaction Content β} {next : β → Transaction Content α}
    (first : Preserves (fun d => AllGenuine formats d ∧ Staged formats prepared d) job)
    (second : ∀ result log d, AllGenuine formats d ∧ Staged formats prepared d →
      GenuineAlong formats (next result) log d)
    (stands : AllGenuine formats disk ∧ Staged formats prepared disk) :
    GenuineAlong formats (job >>= next) log disk :=
  keeps_bind ((first log disk stands).weaken (fun _ _ kept => kept.1) (fun _ _ _ _ failed => failed)
    fun _ _ _ _ kept => kept) fun result log d _ kept => second result log d kept

theorem keeps_publishInstall_genuine (previous : Option ContentId)
    (stands : AllGenuine formats disk ∧ Staged formats prepared disk) :
    GenuineAlong formats (publishInstall formats prepared.manifest.id prepared previous) log disk := by
  have stable : Stable (AllGenuine formats : Disk Content → Prop) := allGenuine_stable
  refine staged_bind (preserves_checked _) ?_ stands
  rintro text log disk ⟨genuine, staged⟩
  have renamed := allGenuine_renamed genuine staged
  refine keeps_bind (keeps_changeWhen (Q := fun _ _ => AllGenuine formats) quiet genuine (fun _ => trivial)
    (fun _ => renamed) fun _ => renamed) ?_
  intro _ log disk genuine _
  have chmods : Chmods (fun _ => AllGenuine formats) (releaseSlot prepared.manifest.id prepared.bundle.contentId) :=
    (stable.wears _ _).chmod
  refine keeps_bind (keeps_makeReadOnly quiet chmods genuine) ?_
  intro _ log disk genuine _
  exact preserves_publish stable prepared.manifest.id prepared text _ _ (preserves_pure ()) log disk genuine

/-- Errors of an install lead to its recovery, which keeps what is stable. -/
theorem keeps_orRecover_genuine {job : Transaction Content InstallOutcome}
    (first : GenuineAlong formats job log disk) : GenuineAlong formats (orRecover app job) log disk := by
  refine keeps_bind first.outcome ?_
  intro outcome log disk genuine _
  cases outcome with
  | ok result => exact keeps_pure genuine genuine
  | error error =>
    exact (preserves_recoverJournal allGenuine_stable app.value).outcome.bind (fun _ => preserves_throw error) log disk
      genuine

theorem preserves_finishExistingInstall (prepared : PreparedPackage Content) :
    Preserves (AllGenuine formats) (finishExistingInstall formats prepared.manifest.id prepared) := by
  have stable : Stable (AllGenuine formats : Disk Content → Prop) := allGenuine_stable
  refine .bind (preserves_readState _) fun state => .bind (preserves_glance _) fun current => ?_
  cases isCurrent prepared.bundle state current with
  | true =>
    refine .bind (preserves_checked _) fun text => .bind (preserves_write stable.toUnpointed _ _ fun _ => rfl) fun _ => ?_
    exact .bind (fun _ _ stands => keeps_removeStage prepared.stageRoot allGenuine_unstaged quiet stands) fun _ =>
      preserves_pure _
  | false =>
    refine .bind (preserves_look _ _) fun release => .bind (preserves_look _ _) fun stage => ?_
    refine .bind (preserves_checked _) fun _ => .bind (preserves_beginInstall stable.toUnpointed _ _ _) fun previous => ?_
    exact fun log disk genuine => keeps_orRecover_genuine
      (preserves_publishExistingInstall stable allGenuine_unstaged _ prepared previous log disk genuine)

/-- An install of a prepared bundle. -/
theorem keeps_install_genuine (stands : AllGenuine formats disk ∧ Staged formats prepared disk) :
    GenuineAlong formats (install formats prepared) log disk := by
  have stable : Stable fun d : Disk Content => AllGenuine formats d ∧ Staged formats prepared d :=
    allGenuine_stable.staged prepared
  have staged : GenuineAlong formats (installStaged formats prepared) log disk := by
    refine staged_bind (preserves_recoverFor stable prepared.manifest.id) (fun _ log disk stands => ?_) stands
    refine staged_bind (preserves_prepareInstallPaths _ prepared) (fun _ log disk stands => ?_) stands
    refine staged_bind (preserves_glance _) (fun found log disk stands => ?_) stands
    cases found.isSome with
    | true => exact preserves_finishExistingInstall prepared log disk stands.1
    | false =>
      refine staged_bind (preserves_beginInstall stable.toUnpointed _ prepared _) (fun previous log disk stands => ?_) stands
      exact keeps_orRecover_genuine (keeps_publishInstall_genuine previous stands)
  refine keeps_bind staged.outcome ?_
  intro outcome log disk genuine _
  have removed : GenuineAlong formats (removeTree (stageSlot prepared.stageRoot)) log disk :=
    keeps_removeStage prepared.stageRoot allGenuine_unstaged quiet genuine
  exact keeps_bind removed.outcome fun _ log disk genuine _ => preserves_checked outcome log disk genuine

theorem keeps_prepare_genuine (archive : List (ArchiveEntry Content)) (stageRoot : String) (device : DeviceProfile)
    (genuine : AllGenuine formats disk) :
    Keeps (fun _ => True) (fun _ => AllGenuine formats) (fun _ _ _ => True)
      (fun prepared _ d => AllGenuine formats d ∧ Staged formats prepared d) (prepare formats archive stageRoot device)
      log disk := by
  have prepares : Keeps (fun _ => True) (fun _ => AllGenuine formats) (fun _ _ _ => True) _
      (prepare formats archive stageRoot device) log disk :=
    keeps_prepare_of allGenuine_unstaged (fun _ => id) ((preserves_recoverAll allGenuine_stable log disk genuine).weaken
      (fun _ _ kept => kept) (fun _ _ _ _ failed => failed) fun _ _ _ kept _ => kept) stageRoot device
  exact prepares.weaken (fun _ _ kept => kept) (fun _ _ _ _ failed => failed) fun _ _ _ _ ready => ⟨ready.1, ready.2.staged⟩

end Install

/-! ## Rolling back and uninstalling -/

theorem preserves_matching {P : Disk Content → Prop} (version : String) (names : List ContentId) :
    Preserves P (matching formats app version names) := by
  induction names with
  | nil => exact preserves_pure []
  | cons name rest ih =>
    refine .bind (preserves_glance _) fun text => .bind ih fun others => ?_
    split
    · split
      · exact preserves_pure _
      · exact preserves_pure _
    · exact preserves_pure _

theorem preserves_rollbackTarget {P : Disk Content → Prop} (state : InstalledPackageStateV1) (version : Option String) :
    Preserves P (rollbackTarget formats app state version) := by
  cases version with
  | none => exact preserves_checked _
  | some version =>
    refine .bind (preserves_readDir _ _) fun names => .bind (preserves_matching version names) fun found => ?_
    split
    · exact preserves_pure _
    · exact preserves_throw _

theorem preserves_rollbackManifest {P : Disk Content → Prop} (target : ContentId) (device : DeviceProfile) :
    Preserves P (rollbackManifest formats app target device) := by
  refine .bind (preserves_look _ _) fun found => ?_
  cases found with
  | none => exact preserves_throw _
  | some bundled =>
    refine .bind (preserves_checked _) fun text => ?_
    cases formats.materialized bundled app target with
    | error message => exact preserves_throw _
    | ok manifest => exact .guarded (preserves_pure _)

section Stable
variable {P : Disk Content → Prop} (stable : Stable P)
include stable

theorem preserves_rollback (app : AppId) (version : Option String) (device : DeviceProfile) :
    Preserves P (rollback formats app version device) := by
  refine .bind (preserves_recoverFor stable app) fun _ => .bind (preserves_readState app) fun state => ?_
  refine .bind (preserves_rollbackTarget state version) fun target => .guarded ?_
  refine .bind (preserves_rollbackManifest target device) fun found => ?_
  refine .bind (preserves_write stable.toUnpointed _ app fun _ => rfl) fun _ => ?_
  exact .bind (preserves_atomicSymlink stable.toUnpointed app target) fun _ =>
    .bind (preserves_write stable.toUnpointed _ app fun _ => rfl) fun _ => preserves_pure _

theorem preserves_removeAppEntry (app : AppId) (entry : String) : Preserves P (removeAppEntry app entry) := by
  unfold removeAppEntry
  split
  · exact preserves_change stable.toUnpointed _ app fun _ => rfl
  · refine .bind (preserves_readDir _ _) fun names => .bind (preserves_each (fun name => ?_) names) fun _ =>
      preserves_look _ _
    exact fun _ _ stands => (keeps_removeDirAll quiet (stable.wears app name) (releaseSlot_lawful app name) stands).weaken
      (fun _ _ kept => kept) (fun _ _ _ _ failed => failed) fun _ _ _ _ kept => kept.1

theorem preserves_removeAppRoot (app : AppId) : Preserves P (removeAppRoot app) := by
  refine .bind (preserves_look _ _) fun _ => .bind (preserves_readDir _ _) fun names => ?_
  refine .bind (preserves_each (fun name => ?_) names) fun _ => ?_
  · exact fun _ _ stands => keeps_makeWritable quiet (stable.wears app name).chmod stands
  · refine .bind (preserves_readDir _ _) fun entries => ?_
    exact .bind (preserves_each (preserves_removeAppEntry stable app) entries) fun _ => preserves_look _ _

omit stable in
theorem preserves_purgeApplicationData (manifest : AppManifest) :
    Preserves P (purgeApplicationData booksRoot manifest) := by
  unfold purgeApplicationData
  cases manifest.directories with
  | none => exact preserves_pure ()
  | some directories => exact preserves_each (fun path => .guarded (preserves_look _ _)) directories.paths

theorem preserves_uninstall (app : AppId) (purge : Bool) :
    Preserves P (uninstall formats booksRoot app purge) := by
  refine .bind (preserves_recoverFor stable app) fun _ => .bind (preserves_look _ _) fun found => ?_
  cases found with
  | none => exact preserves_throw _
  | some text =>
    simp only
    cases formats.materialized text.bundled app text.release with
    | error message => exact preserves_throw _
    | ok manifest =>
      refine .guarded ?_
      have removal : Preserves P (do
          changeWhen (.manifest app) (fun disk => (disk.apps app).manifest.isSome) (setManifest app none)
          removeAppRoot app
          removeState app
          return (⟨app, purge⟩ : UninstallOutcome)) := by
        refine .bind (preserves_changeWhen _ _ (stable.toUnpointed.edit app _ fun _ => rfl)) fun _ => ?_
        exact .bind (preserves_removeAppRoot stable app) fun _ =>
          .bind (preserves_change stable.toUnpointed _ app fun _ => rfl) fun _ => preserves_pure _
      cases purge with
      | false => exact removal
      | true => exact .bind (preserves_purgeApplicationData manifest) fun _ => removal

end Stable

/-! ## Runs -/

theorem preserves_operation (operation : Operation Content) :
    Preserves (AllGenuine formats) (operation.job formats booksRoot) := by
  have stable : Stable (AllGenuine formats : Disk Content → Prop) := allGenuine_stable
  cases operation with
  | install archive stageRoot device =>
    intro log disk genuine
    refine keeps_bind (keeps_prepare_genuine archive stageRoot device genuine) ?_
    intro prepared log disk _ stands
    exact keeps_bind (keeps_install_genuine stands) fun _ _ _ _ kept => keeps_pure kept kept
  | rollback app version device => exact .bind (preserves_rollback stable app version device) fun _ => preserves_pure ()
  | uninstall app purge => exact .bind (preserves_uninstall stable app purge) fun _ => preserves_pure ()

theorem Preserves.stands {α : Type} {P : Disk Content → Prop} {job : Transaction Content α} (kept : Preserves P job)
    (answers : List Answer) (stands : P disk) : P (job.trace answers disk).state :=
  (kept [] disk stands).stands fun _ _ => trivial

theorem Rerun.genuine (reruns : Rerun before after) (genuine : AllGenuine formats before) : AllGenuine formats after := by
  induction reruns with
  | none => exact genuine
  | again reruns answers ih => exact (preserves_recoverAll allGenuine_stable).stands answers ih

theorem Run.genuine {fit : Operation Content → List Answer → List Place → Prop} (run : Run formats booksRoot fit disk) :
    AllGenuine formats disk := by
  induction run with
  | start =>
    intro app name tree found
    rw [AList.lookup_empty] at found
    cases found
  | attempt run operation answers fits reruns last recovered ih =>
    exact (preserves_recoverAll allGenuine_stable).stands last
      (reruns.genuine ((preserves_operation operation).stands answers ih))

/-! ## What a release holds -/

/-- The release is named by the digest of the bundle's identity and inventory, and each of its
    files but the bundle's description is one that the inventory lists. -/
structure OfBundle (formats : Formats Content) (app : AppId) (name : ContentId) (bundle : BundleV1) (tree : Tree Content) :
    Prop where
  valid : validateBundle bundle = .ok ()
  app : bundle.appId = app.value
  digest : ∃ text, formats.digest text = name ∧ text.toList =
    (contentHeader bundle).toList ++ Records.body '\x00' '\n' (bundle.inventory.map InventoryEntry.record)
  listed : ∀ path file, tree.lookup path = some file → path = "bundle.json" ∨ ∃ record ∈ bundle.files,
    record.path = path ∧ formats.size file.content = record.size ∧ formats.sha256 file.content = record.sha256

theorem verifyFile_sized {place : Place} {record : BundleFileV1} {line : String} {file : File Content}
    (ok : verifyFile formats tree place record = .ok line) (found : tree.lookup record.path = some file) :
    formats.size file.content = record.size := by
  unfold verifyFile at ok
  rw [found] at ok
  cases parsed : parseMode record.mode with
  | none =>
    rw [parsed] at ok
    cases ok
  | some mode =>
    simp only [parsed] at ok
    split at ok
    · cases ok
    · rename_i fits
      simp only [ne_eq, Bool.or_eq_true, decide_eq_true_eq, not_or, not_not] at fits
      exact fits.1.1

theorem sized_of_lines {place : Place} {records : List BundleFileV1} {lines : List String}
    (verified : List.Forall₂ (fun record line => verifyFile formats tree place record = .ok line) records lines)
    {record : BundleFileV1} (member : record ∈ records) {file : File Content}
    (found : tree.lookup record.path = some file) : formats.size file.content = record.size := by
  induction verified with
  | nil => exact absurd member List.not_mem_nil
  | cons one _ ih =>
    rcases List.mem_cons.mp member with rfl | later
    · exact verifyFile_sized one found
    · exact ih later

/-- A tree that fits the inventory has no file that is not listed. -/
theorem verifyInventory_listed {place : Place} {bundle : BundleV1}
    (ok : verifyInventory formats tree place bundle = .ok ()) {path : String} {file : File Content}
    (found : tree.lookup path = some file) :
    path = "bundle.json" ∨ ∃ record ∈ bundle.files,
      record.path = path ∧ formats.size file.content = record.size ∧ formats.sha256 file.content = record.sha256 := by
  by_cases described : path = "bundle.json"
  · exact .inl described
  · right
    obtain ⟨text, taken, -⟩ := verifyInventory_taken ok
    unfold verifyInventory at ok
    obtain ⟨same, ok⟩ := ok_of_guard ok
    obtain ⟨lines, verified, -⟩ := ok_of_bind ok
    have present : path ∈ tree.keys := AList.mem_keys.mpr (AList.lookup_isSome.mp (by rw [found]; rfl))
    have listed : path ∈ bundle.files.map BundleFileV1.path := by
      simp only [samePaths, Bool.not_eq_true', Bool.not_eq_false, Bool.and_eq_true, List.all_eq_true] at same
      exact List.contains_iff_mem.mp (same.2 path (List.mem_filter.mpr ⟨present, by simpa using described⟩))
    obtain ⟨record, member, rfl⟩ := List.mem_map.mp listed
    obtain ⟨other, there, hashed⟩ := contentText_found taken member
    obtain rfl : other = file := Option.some.inj (there.symm.trans found)
    have ordinal : record ∈ ordered bundle.files := (List.perm_insertionSort _ _).mem_iff.mpr member
    exact ⟨record, member, rfl, sized_of_lines (mapM_ok verified) ordinal found, hashed⟩

theorem verifyStage_valid {root : String} {device : DeviceProfile} {stage : Tree Content}
    {prepared : PreparedPackage Content} (ok : verifyStage formats root device stage = .ok prepared) :
    validateBundle prepared.bundle = .ok () ∧ prepared.bundle.appId = prepared.manifest.id.value := by
  obtain ⟨bundleBytes, _, ok⟩ := ok_of_bind ok
  cases described : formats.bundle bundleBytes with
  | error message =>
    rw [described] at ok
    cases ok
  | ok bundle =>
    rw [described] at ok
    obtain ⟨_, validated, ok⟩ := ok_of_bind ok
    obtain ⟨_, _, ok⟩ := ok_of_bind ok
    obtain ⟨manifestBytes, _, ok⟩ := ok_of_bind ok
    cases parsed : formats.manifest manifestBytes with
    | error message =>
      rw [parsed] at ok
      cases ok
    | ok manifest =>
      rw [parsed] at ok
      obtain ⟨_, contract, ok⟩ := ok_of_bind ok
      cases ok
      unfold validateManifestContract at contract
      obtain ⟨identical, -⟩ := ok_of_guard contract
      simp only [ne_eq, Bool.or_eq_true, decide_eq_true_eq, not_or, not_not] at identical
      exact ⟨validated, identical.1.1.symm⟩

theorem Genuine.ofBundle {name : ContentId} (genuine : Genuine formats app name tree) :
    ∃ bundle, OfBundle formats app name bundle tree := by
  obtain ⟨prepared, root, device, stage, verified, rfl, rfl, part⟩ := genuine
  have inventory := (verifyStage_ok verified).2.2
  obtain ⟨text, taken, digested⟩ := verifyInventory_taken inventory
  obtain ⟨valid, same⟩ := verifyStage_valid verified
  refine ⟨prepared.bundle, valid, same, ⟨text, digested, contentText_toList taken⟩, fun path file found => ?_⟩
  obtain ⟨original, there, content⟩ := part path file found
  rw [content]
  exact verifyInventory_listed inventory there

/-- In every run, wherever the operation that follows and the recoveries after it stop, each
    release that is left is named by the digest of a valid bundle of its application, and holds
    nothing that the bundle does not list. -/
theorem releases_genuine {fit : Operation Content → List Answer → List Place → Prop}
    (run : Run formats booksRoot fit disk) (operation : Operation Content) (answers : List Answer)
    (reruns : Rerun ((operation.job formats booksRoot).trace answers disk).state after) {name : ContentId}
    (found : (after.apps app).releases.lookup name = some tree) : ∃ bundle, OfBundle formats app name bundle tree :=
  (reruns.genuine ((preserves_operation operation).stands answers run.genuine) app name tree found).ofBundle

/-- The sketchpad's release, once an uninstall has removed the first of its files. -/
theorem releases_genuine_sketchpad : ∃ tree, ((((Operation.uninstall sketchpad false).job sketchpadFormats []).trace
      (List.replicate 15 {}) sketchpadInstalled).state.apps sketchpad).releases.lookup sketchpadBundle.contentId = some tree ∧
    ∃ bundle, OfBundle sketchpadFormats sketchpad sketchpadBundle.contentId bundle tree := by
  obtain ⟨tree, found⟩ := Option.isSome_iff_exists.mp (show (((((Operation.uninstall sketchpad false).job
    sketchpadFormats []).trace (List.replicate 15 {}) sketchpadInstalled).state.apps sketchpad).releases.lookup
      sketchpadBundle.contentId).isSome = true by decide +kernel)
  exact ⟨tree, found, releases_genuine sketchpadInstalled_run (.uninstall sketchpad false) (List.replicate 15 {}) .none found⟩

end Remagic.Package
