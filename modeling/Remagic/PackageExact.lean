import Remagic.PackageGenuine

/-!
# What a successful install leaves

An install that succeeds leaves exactly the files of its bundle's inventory and its
`bundle.json`, whether it brought the release or found it installed. A bundle that is
current already is the exception: its release is believed as it is.
-/

namespace Remagic.Package
open Tasks Job
open Fallible (ok_of_bind ok_of_guard)

variable {Content : Type} {formats : Formats Content} {disk d : Disk Content} {app : AppId} {name : ContentId}
  {bundle : BundleV1} {description : Content} {tree later : Tree Content} {record : BundleFileV1} {place : Place}

/-! ## Exact releases -/

/-- The release is its bundle's, each file that the inventory lists is there, and so is a
    `bundle.json` with the hash of the description. -/
structure Exact (formats : Formats Content) (app : AppId) (name : ContentId) (bundle : BundleV1) (description : Content)
    (tree : Tree Content) : Prop extends OfBundle formats app name bundle tree where
  complete : ∀ record ∈ bundle.files, ∃ file, tree.lookup record.path = some file ∧
    formats.size file.content = record.size ∧ formats.sha256 file.content = record.sha256
  described : ∃ file, tree.lookup "bundle.json" = some file ∧ formats.sha256 file.content = formats.sha256 description

theorem Exact.sameContents (exact : Exact formats app name bundle description tree)
    (same : ∀ path, (later.lookup path).map File.content = (tree.lookup path).map File.content) :
    Exact formats app name bundle description later where
  valid := exact.valid
  app := exact.app
  digest := exact.digest
  listed path file found := by
    have content := same path
    rw [found, Option.map_some, eq_comm, Option.map_eq_some_iff] at content
    obtain ⟨original, there, equal⟩ := content
    rw [← equal]
    exact exact.listed path original there
  complete record member := by
    obtain ⟨original, there, fits⟩ := exact.complete record member
    have content := same record.path
    rw [there, Option.map_some, Option.map_eq_some_iff] at content
    obtain ⟨file, found, equal⟩ := content
    exact ⟨file, found, by rw [equal]; exact fits⟩
  described := by
    obtain ⟨original, there, hashed⟩ := exact.described
    have content := same "bundle.json"
    rw [there, Option.map_some, Option.map_eq_some_iff] at content
    obtain ⟨file, found, equal⟩ := content
    exact ⟨file, found, by rw [equal]; exact hashed⟩

theorem chmod_contents (tree : Tree Content) (mode : Nat → Nat) (changed path : String) :
    ((Tree.chmod tree mode changed).lookup path).map File.content = (tree.lookup path).map File.content := by
  unfold Tree.chmod
  cases present : tree.lookup changed with
  | none => rfl
  | some original =>
    by_cases same : path = changed
    · subst same
      rw [AList.lookup_insert, present]
      rfl
    · rw [AList.lookup_insert_ne same]

/-- What a stage that passed every check says of its bundle. -/
structure Verified (formats : Formats Content) (prepared : PreparedPackage Content) : Prop where
  valid : validateBundle prepared.bundle = .ok ()
  app : prepared.bundle.appId = prepared.manifest.id.value
  digest : ∃ text, formats.digest text = prepared.bundle.contentId ∧ text.toList =
    (contentHeader prepared.bundle).toList ++
      Records.body '\x00' '\n' (prepared.bundle.inventory.map InventoryEntry.record)

theorem verifyStage_verified {root : String} {device : DeviceProfile} {prepared : PreparedPackage Content}
    (ok : verifyStage formats root device tree = .ok prepared) : Verified formats prepared := by
  obtain ⟨valid, same⟩ := verifyStage_valid ok
  obtain ⟨text, taken, digested⟩ := verifyInventory_taken (verifyStage_ok ok).2.2
  exact ⟨valid, same, text, digested, contentText_toList taken⟩

theorem verifyInventory_complete (ok : verifyInventory formats tree place bundle = .ok ())
    (member : record ∈ bundle.files) :
    ∃ file, tree.lookup record.path = some file ∧
      formats.size file.content = record.size ∧ formats.sha256 file.content = record.sha256 := by
  obtain ⟨text, taken, -⟩ := verifyInventory_taken ok
  obtain ⟨file, there, hashed⟩ := contentText_found taken member
  unfold verifyInventory at ok
  obtain ⟨-, ok⟩ := ok_of_guard ok
  obtain ⟨lines, verified, -⟩ := ok_of_bind ok
  have ordinal : record ∈ ordered bundle.files := (List.perm_insertionSort _ _).mem_iff.mpr member
  exact ⟨file, there, sized_of_lines (Fallible.mapM_ok verified) ordinal there, hashed⟩

theorem verifyStage_exact {root : String} {device : DeviceProfile} {prepared : PreparedPackage Content} {file : File Content}
    (ok : verifyStage formats root device tree = .ok prepared) (described : tree.lookup "bundle.json" = some file) :
    Exact formats prepared.manifest.id prepared.bundle.contentId prepared.bundle file.content tree where
  valid := (verifyStage_verified ok).valid
  app := (verifyStage_verified ok).app
  digest := (verifyStage_verified ok).digest
  listed _ _ := verifyInventory_listed (verifyStage_ok ok).2.2
  complete _ := verifyInventory_complete (verifyStage_ok ok).2.2
  described := ⟨file, described, rfl⟩

theorem verifyInstalledFile_ok (ok : verifyInstalledFile formats tree place record = .ok ()) :
    ∃ file, tree.lookup record.path = some file ∧
      formats.size file.content = record.size ∧ formats.sha256 file.content = record.sha256 := by
  unfold verifyInstalledFile at ok
  cases present : tree.lookup record.path with
  | none =>
    rw [present] at ok
    cases ok
  | some file =>
    cases parsed : parseMode record.mode with
    | none =>
      rw [present, parsed] at ok
      cases ok
    | some mode =>
      simp only [present, parsed] at ok
      split at ok
      · cases ok
      · rename_i fits
        simp only [ne_eq, Bool.or_eq_true, decide_eq_true_eq, not_or, not_not] at fits
        exact ⟨file, rfl, fits.1.1, fits.2⟩

theorem verifyInstalledFiles_ok {records : List BundleFileV1}
    (ok : records.forM (verifyInstalledFile formats tree place) = .ok ()) (member : record ∈ records) :
    verifyInstalledFile formats tree place record = .ok () := by
  induction records with
  | nil => exact absurd member List.not_mem_nil
  | cons first rest ih =>
    have ok : (verifyInstalledFile formats tree place first >>= fun _ => rest.forM (verifyInstalledFile formats tree place)) =
      .ok () := ok
    obtain ⟨_, verified, others⟩ := ok_of_bind ok
    rcases List.mem_cons.mp member with rfl | later
    · exact verified
    · exact ih others later

/-- A release that is found as the bundle lists it is exact. -/
theorem verifyInstalledRelease_exact {prepared : PreparedPackage Content} {stage : Tree Content} {file : File Content}
    (verified : Verified formats prepared) (described : stage.lookup "bundle.json" = some file)
    (ok : verifyInstalledRelease formats tree stage place prepared.bundle = .ok ()) :
    Exact formats prepared.manifest.id prepared.bundle.contentId prepared.bundle file.content tree := by
  unfold verifyInstalledRelease at ok
  obtain ⟨same, ok⟩ := ok_of_guard ok
  obtain ⟨_, files, ok⟩ := ok_of_bind ok
  refine ⟨⟨verified.valid, verified.app, verified.digest, fun path file found => ?_⟩, fun record member =>
    verifyInstalledFile_ok (verifyInstalledFiles_ok files member), ?_⟩
  · have present : path ∈ tree.keys := AList.mem_keys.mpr (AList.lookup_isSome.mp (by rw [found]; rfl))
    simp only [samePaths, Bool.not_eq_true', Bool.not_eq_false, Bool.and_eq_true, List.all_eq_true] at same
    rcases List.mem_cons.mp (List.contains_iff_mem.mp (same.2 path present)) with described | listed
    · exact .inl described
    · right
      obtain ⟨record, member, rfl⟩ := List.mem_map.mp listed
      obtain ⟨other, there, fits⟩ := verifyInstalledFile_ok (verifyInstalledFiles_ok files member)
      obtain rfl : other = file := Option.some.inj (there.symm.trans found)
      exact ⟨record, member, rfl, fits⟩
  · cases found : tree.lookup "bundle.json" with
    | none =>
      rw [found] at ok
      cases ok
    | some installed =>
      rw [found, described] at ok
      by_cases hashes : formats.sha256 installed.content = formats.sha256 file.content
      · exact ⟨installed, rfl, hashes⟩
      · simp only [ne_eq, hashes, not_false_eq_true, if_true] at ok
        cases ok

/-! ## Where the release is exact -/

/-- The release of the bundle is there, and exact. -/
def Brings (formats : Formats Content) (app : AppId) (bundle : BundleV1) (description : Content) (disk : Disk Content) : Prop :=
  ∃ tree, (disk.apps app).releases.lookup bundle.contentId = some tree ∧
    Exact formats app bundle.contentId bundle description tree

/-- It is also the current one. -/
def Serves (formats : Formats Content) (app : AppId) (bundle : BundleV1) (description : Content) (disk : Disk Content) : Prop :=
  Brings formats app bundle description disk ∧ (disk.apps app).current = some bundle.contentId

theorem brings_unpointed : Unpointed (Brings formats app bundle description : Disk Content → Prop) where
  pointers before after brings same _ := by
    obtain ⟨tree, found, exact⟩ := brings
    exact ⟨tree, by rw [same]; exact found, exact⟩

theorem brings_chmods :
    Chmods (fun _ => Brings formats app bundle description) (releaseSlot app bundle.contentId : Slot Content) := by
  rintro _ d mode path ⟨tree, found, exact⟩
  refine ⟨Tree.chmod tree mode path, ?_, exact.sameContents (chmod_contents tree mode path)⟩
  have there : (releaseSlot app bundle.contentId).get d = some tree := found
  rw [Slot.edit, there]
  simp only
  rw [releaseSlot_set, edit_self]
  exact AList.lookup_insert _

theorem serves_of_same {before after : Disk Content} (serves : Serves formats app bundle description before)
    (same : after.apps = before.apps) : Serves formats app bundle description after := by
  unfold Serves Brings
  rw [same]
  exact serves

/-- Another release may change. -/
theorem serves_wears (other : name ≠ bundle.contentId) :
    Wears (fun _ => Serves formats app bundle description) (releaseSlot app name : Slot Content) := by
  refine release_wears (fun _ _ kept => kept) ?_
  rintro _ d tree ⟨⟨exactTree, found, exact⟩, current⟩
  rw [releaseSlot_set]
  unfold Serves Brings
  rw [edit_self]
  exact ⟨⟨exactTree, by rw [lookup_putTree_ne (Ne.symm other)]; exact found, exact⟩, current⟩

/-- The stage holds a tree with this description that passed every check of the bundle. -/
def StagedAs (formats : Formats Content) (prepared : PreparedPackage Content) (description : Content) (disk : Disk Content) :
    Prop :=
  ∃ device tree file, disk.staging.lookup prepared.stageRoot = some tree ∧
    verifyStage formats prepared.stageRoot device tree = .ok prepared ∧ tree.lookup "bundle.json" = some file ∧
    file.content = description

theorem StagedFrom.described {archive : List (ArchiveEntry Content)} {prepared : PreparedPackage Content}
    (staged : StagedFrom formats archive prepared disk) : ∃ entry ∈ archive, entry.kind = .file ∧
      normal entry.path = "bundle.json" ∧ formats.bundle entry.content = .ok prepared.bundle ∧
      StagedAs formats prepared entry.content disk := by
  obtain ⟨device, tree, there, ok, taken⟩ := staged
  obtain ⟨-, ⟨file, present, parsed⟩, -⟩ := verifyStage_ok ok
  obtain ⟨entry, unpacked⟩ := taken "bundle.json" file present
  rw [unpacked.content] at parsed
  exact ⟨entry, unpacked.packed, unpacked.kind, unpacked.named.symm, parsed, device, tree, file, there, ok, present,
    unpacked.content⟩

/-! ## The install -/

section
variable {α β : Type} {post : α → Disk Content → Prop} {prepared : PreparedPackage Content} {log : List Place}
  {job : Transaction Content α}

/-- Wherever the job ends well, `post` holds. -/
abbrev Reaches (post : α → Disk Content → Prop) (job : Transaction Content α) (log : List Place) (disk : Disk Content) :
    Prop :=
  Keeps (fun _ => True) (fun _ _ => True) (fun _ _ _ => True) (fun result _ => post result) job log disk

theorem Preserves.reaches {P : Disk Content → Prop} (kept : Preserves P job) (stands : P disk) :
    Reaches (fun _ => P) job log disk :=
  (kept log disk stands).weaken (fun _ _ _ => trivial) (fun _ _ _ _ failed => failed) fun _ _ _ _ ends => ends

theorem Reaches.bind {M : β → Disk Content → Prop} {job : Transaction Content β} {next : β → Transaction Content α}
    (first : Reaches M job log disk) (second : ∀ result log d, M result d → Reaches post (next result) log d) :
    Reaches post (job >>= next) log disk :=
  keeps_bind first fun result log d _ ends => second result log d ends

theorem Reaches.outcome (first : Reaches post job log disk) :
    Reaches (fun outcome d => ∀ result, outcome = .ok result → post result d) (Job.outcome job) log disk := by
  refine keeps_outcome (first.weaken (fun _ _ stands => stands) ?_ ?_)
  · intro error log d _ _ result same
    cases same
  · intro result log d _ ends other same
    cases same
    exact ends

/-- Only a job that succeeded is not recovered from. -/
theorem Reaches.orRecover (first : Reaches post job log disk) : Reaches post (orRecover app job) log disk := by
  refine first.outcome.bind ?_
  intro outcome log d ends
  cases outcome with
  | ok result => exact keeps_pure trivial (ends result rfl)
  | error error => exact keeps_bind (keeps_nothing _) fun _ _ _ _ _ => keeps_throw trivial trivial

theorem reaches_removeStage (root : String) (stands : Serves formats app bundle description disk) :
    Reaches (fun _ => Serves formats app bundle description) (removeTree (stageSlot root)) log disk :=
  (keeps_removeStage root (fun _ _ serves same _ => serves_of_same serves same) quiet stands).weaken
    (fun _ _ _ => trivial) (fun _ _ _ _ failed => failed) fun _ _ _ _ kept => kept

theorem reaches_removeStaleReleases {state : InstalledPackageStateV1} (named : state.currentContentId = bundle.contentId)
    (stands : Serves formats app bundle description disk) :
    Reaches (fun _ => Serves formats app bundle description) (removeStaleReleases app state) log disk := by
  have kept : Preserves (Serves formats app bundle description : Disk Content → Prop) (removeStaleReleases app state) := by
    refine .bind (preserves_readDir _ _) fun names => preserves_each (fun name => ?_) names
    by_cases keep : name = state.currentContentId ∨ some name = state.previousContentId
    · simp only [keep, if_true]
      exact preserves_pure ()
    · simp only [keep, if_false]
      have other : name ≠ bundle.contentId := fun same => keep (.inl (same.trans named.symm))
      exact fun _ _ stands => (keeps_removeTree quiet (serves_wears other) (releaseSlot_lawful app name) stands).weaken
        (fun _ _ kept => kept) (fun _ _ _ _ failed => failed) fun _ _ _ _ kept => kept.1
  exact kept.reaches stands

/-- From the manifest to the end, `last` being what is done once the journal is gone. -/
theorem reaches_publish {text : Published Content} {previous : Option ContentId} (last : Transaction Content Unit)
    (ends : ∀ log d, Serves formats app prepared.bundle description d →
      Reaches (fun _ => Serves formats app prepared.bundle description) last log d)
    (stands : Brings formats app prepared.bundle description disk) :
    Reaches (fun outcome d => outcome = InstallOutcome.of app prepared.bundle previous ∧
        Serves formats app prepared.bundle description d)
      (do
        writeManifest app text
        atomicSymlink app prepared.bundle.contentId
        writeState app (nextState app prepared.bundle previous)
        changeWhen (.journal app.value) (fun disk => (disk.journals.lookup app.value).isSome) (eraseJournal app.value)
        last
        removeStaleReleases app (nextState app prepared.bundle previous)
        return InstallOutcome.of app prepared.bundle previous) log disk := by
  have written : Preserves (Brings formats app prepared.bundle description) (writeManifest app text) :=
    preserves_write brings_unpointed _ app fun _ => rfl
  refine (written.reaches stands).bind ?_
  intro _ log disk stands
  have linked : Serves formats app prepared.bundle description (setCurrent app (some prepared.bundle.contentId) disk) := by
    refine ⟨brings_unpointed.edit app (fun files => { files with current := some prepared.bundle.contentId })
      (fun _ => rfl) disk stands, ?_⟩
    rw [setCurrent, edit_self]
  refine Reaches.bind (M := fun _ => Serves formats app prepared.bundle description)
    (keeps_atomicSymlink quiet trivial trivial linked) ?_
  rintro _ log disk ⟨brings, current⟩
  have stated : Serves formats app prepared.bundle description
      (setState app (some (nextState app prepared.bundle previous)) disk) := by
    refine ⟨brings_unpointed.edit app (fun files => { files with state := some (nextState app prepared.bundle previous) })
      (fun _ => rfl) disk brings, ?_⟩
    rw [setState, edit_self]
    exact current
  refine Reaches.bind (M := fun _ => Serves formats app prepared.bundle description)
    (keeps_atomicWrite quiet trivial trivial stated) ?_
  intro _ log disk serves
  refine Reaches.bind (M := fun _ => Serves formats app prepared.bundle description)
    (keeps_changeWhen quiet trivial (fun _ => trivial) (fun _ => trivial) fun _ => serves_of_same serves rfl) ?_
  intro _ log disk serves
  refine (ends log disk serves).bind ?_
  intro _ log disk serves
  refine (reaches_removeStaleReleases rfl serves).bind ?_
  intro _ log disk serves
  exact keeps_pure trivial ⟨rfl, serves⟩

/-- Bringing the release: the stage is moved into its place. -/
theorem reaches_publishInstall {previous : Option ContentId} (staged : StagedAs formats prepared description disk) :
    Reaches (fun outcome d => outcome = InstallOutcome.of prepared.manifest.id prepared.bundle previous ∧
      Serves formats prepared.manifest.id prepared.bundle description d)
      (publishInstall formats prepared.manifest.id prepared previous) log disk := by
  refine Reaches.bind (M := fun _ d => StagedAs formats prepared description d)
    (keeps_checked trivial (fun _ _ => trivial) fun _ _ => staged) ?_
  rintro text log disk ⟨device, stage, file, there, verified, present, rfl⟩
  have moved : Brings formats prepared.manifest.id prepared.bundle file.content ((stageSlot prepared.stageRoot).set none
      ((releaseSlot prepared.manifest.id prepared.bundle.contentId).set ((stageSlot prepared.stageRoot).get disk) disk)) := by
    refine ⟨stage, ?_, verifyStage_exact verified present⟩
    rw [stageSlot_get, there, stageSlot_set, releaseSlot_set]
    dsimp only
    rw [edit_self]
    exact AList.lookup_insert _
  refine Reaches.bind (M := fun _ => Brings formats prepared.manifest.id prepared.bundle file.content)
    (keeps_changeWhen quiet trivial (fun _ => trivial) (fun _ => trivial) fun _ => moved) ?_
  intro _ log disk brings
  refine Reaches.bind (M := fun _ => Brings formats prepared.manifest.id prepared.bundle file.content)
    ((keeps_makeReadOnly quiet brings_chmods brings).weaken (fun _ _ _ => trivial) (fun _ _ _ _ failed => failed)
      fun _ _ _ _ kept => kept) ?_
  intro _ log disk brings
  exact reaches_publish (pure ()) (fun _ _ serves => keeps_pure trivial serves) brings

/-- The bundle is not the current one. -/
def OtherCurrent (prepared : PreparedPackage Content) (disk : Disk Content) : Prop :=
  (disk.apps prepared.manifest.id).current ≠ some prepared.bundle.contentId

/-- The outcome is the bundle's, and the bundle's release is current and exact. -/
def Succeeds (formats : Formats Content) (prepared : PreparedPackage Content) (description : Content)
    (outcome : InstallOutcome) (disk : Disk Content) : Prop :=
  outcome.appId = prepared.manifest.id ∧ outcome.contentId = prepared.bundle.contentId ∧
    Serves formats prepared.manifest.id prepared.bundle description disk

/-- A release that is found installed is verified, unless it is current. -/
theorem reaches_finishExistingInstall (staged : StagedAs formats prepared description disk)
    (moved : OtherCurrent prepared disk) :
    Reaches (Succeeds formats prepared description)
      (finishExistingInstall formats prepared.manifest.id prepared) log disk := by
  have read : Preserves (fun d => StagedAs formats prepared description d ∧ OtherCurrent prepared d)
      (readState prepared.manifest.id) := preserves_readState prepared.manifest.id
  refine (read.reaches ⟨staged, moved⟩).bind ?_
  rintro state log disk ⟨staged, moved⟩
  refine Reaches.bind (M := fun current d => current ≠ some prepared.bundle.contentId ∧ StagedAs formats prepared description d)
    (keeps_glance trivial (fun _ => ⟨by simp, staged⟩) ⟨moved, staged⟩) ?_
  rintro current log disk ⟨moved, staged⟩
  have fresh : isCurrent prepared.bundle state current = false := decide_eq_false fun same => moved same.2.2.2
  rw [fresh]
  refine Reaches.bind (M := fun release d => release = (releaseSlot prepared.manifest.id prepared.bundle.contentId).get d ∧
    StagedAs formats prepared description d) (keeps_look quiet trivial ⟨rfl, staged⟩) ?_
  rintro release log disk ⟨read, staged⟩
  refine Reaches.bind (M := fun stage d => release = (releaseSlot prepared.manifest.id prepared.bundle.contentId).get d ∧
    StagedAs formats prepared description d ∧ stage = (stageSlot prepared.stageRoot).get d)
    (keeps_look quiet trivial ⟨read, staged, rfl⟩) ?_
  rintro stage log disk ⟨there, ⟨device, tree, file, kept, passed, present, same⟩, fetched⟩
  have verified := verifyStage_verified passed
  have described : (stage.getD ∅).lookup "bundle.json" = some file := by
    rw [fetched, stageSlot_get, kept]
    exact present
  refine Reaches.bind (M := fun _ => Brings formats prepared.manifest.id prepared.bundle description)
    (keeps_checked trivial (fun _ _ => trivial) fun _ ok => ?_) ?_
  · have exact := verifyInstalledRelease_exact verified described ok
    rw [same] at exact
    cases found : (releaseSlot prepared.manifest.id prepared.bundle.contentId).get disk with
    | some tree =>
      rw [there, found] at exact
      exact ⟨tree, found, exact⟩
    | none =>
      rw [there, found] at exact
      obtain ⟨_, installed, -⟩ := exact.described
      exact absurd installed (by simp)
  intro _ log disk brings
  refine ((preserves_beginInstall brings_unpointed _ prepared true).reaches brings).bind ?_
  intro previous log disk brings
  refine Reaches.orRecover ?_
  refine Reaches.bind (M := fun _ => Brings formats prepared.manifest.id prepared.bundle description)
    (keeps_checked trivial (fun _ _ => trivial) fun _ _ => brings) ?_
  intro text log disk brings
  refine (reaches_publish (removeTree (stageSlot prepared.stageRoot))
    (fun log d serves => reaches_removeStage prepared.stageRoot serves) brings).weaken
    (fun _ _ _ => trivial) (fun _ _ _ _ failed => failed) ?_
  rintro _ _ _ - ⟨rfl, serves⟩
  exact ⟨rfl, rfl, serves⟩

theorem reaches_install (idle : disk.journals.lookup prepared.manifest.id.value = none)
    (staged : StagedAs formats prepared description disk) (moved : OtherCurrent prepared disk) :
    Reaches (Succeeds formats prepared description) (install formats prepared) log disk := by
  have reached : Reaches (Succeeds formats prepared description) (installStaged formats prepared) log disk := by
    refine Reaches.bind (M := fun _ d => d = disk) ((keeps_recoverFor_idle idle trivial).weaken (fun _ _ kept => kept)
      (fun _ _ _ _ failed => failed) fun _ _ _ _ same => same.2) ?_
    rintro _ log disk rfl
    have unpointed : Unpointed fun d : Disk Content => StagedAs formats prepared description d := by
      refine ⟨fun before after kept _ same => ?_⟩
      rw [StagedAs, same]
      exact kept
    have untouched : Preserves (fun d => StagedAs formats prepared description d ∧ OtherCurrent prepared d)
      (prepareInstallPaths prepared.manifest.id prepared) := preserves_prepareInstallPaths _ prepared
    refine (untouched.reaches ⟨staged, moved⟩).bind ?_
    intro _ log disk stands
    refine Reaches.bind (M := fun _ d => StagedAs formats prepared description d ∧ OtherCurrent prepared d)
      (keeps_glance trivial (fun _ => stands) stands) ?_
    rintro found log disk ⟨staged, moved⟩
    cases found.isSome with
    | true => exact reaches_finishExistingInstall staged moved
    | false =>
      refine ((preserves_beginInstall unpointed _ prepared _).reaches staged).bind ?_
      intro previous log disk staged
      refine Reaches.orRecover ((reaches_publishInstall staged).weaken (fun _ _ _ => trivial)
        (fun _ _ _ _ failed => failed) ?_)
      rintro _ _ _ - ⟨rfl, serves⟩
      exact ⟨rfl, rfl, serves⟩
  refine reached.outcome.bind ?_
  intro outcome log disk ends
  -- whatever comes of dropping the stage, the release stays
  have dropped : Preserves (fun d => ∀ result, outcome = .ok result → Succeeds formats prepared description result d)
      (removeTree (stageSlot prepared.stageRoot)) := by
    refine fun _ _ stands => keeps_removeStage prepared.stageRoot ?_ quiet stands
    intro before after succeeds same _ result ok
    obtain ⟨named, contents, serves⟩ := succeeds result ok
    exact ⟨named, contents, serves_of_same serves same⟩
  refine (dropped.outcome.reaches ends).bind ?_
  intro _ log disk ends
  exact keeps_checked trivial (fun _ _ => trivial) fun result same => ends result same

/-- The outcome is the bundle's. -/
def Names (prepared : PreparedPackage Content) (outcome : InstallOutcome) : Prop :=
  outcome.appId = prepared.manifest.id ∧ outcome.contentId = prepared.bundle.contentId

theorem finishExistingInstall_names : Reaches (fun outcome _ => Names prepared outcome)
    (finishExistingInstall formats prepared.manifest.id prepared) log disk := by
  refine keeps_bind (keeps_nothing _) fun state log disk _ _ => keeps_bind (keeps_nothing _) fun current log disk _ _ => ?_
  cases same : isCurrent prepared.bundle state current with
  | true =>
    have current := of_decide_eq_true same
    refine keeps_bind (keeps_nothing _) fun _ _ _ _ _ => keeps_bind (keeps_nothing _) fun _ _ _ _ _ => ?_
    exact keeps_bind (keeps_nothing _) fun _ _ _ _ _ => keeps_pure trivial ⟨rfl, current.1⟩
  | false =>
    refine keeps_bind (keeps_nothing _) fun _ _ _ _ _ => keeps_bind (keeps_nothing _) fun _ _ _ _ _ => ?_
    refine keeps_bind (keeps_nothing _) fun _ _ _ _ _ => keeps_bind (keeps_nothing _) fun _ _ _ _ _ => ?_
    refine Reaches.orRecover ?_
    refine keeps_bind (keeps_nothing _) fun _ _ _ _ _ => keeps_bind (keeps_nothing _) fun _ _ _ _ _ => ?_
    refine keeps_bind (keeps_nothing _) fun _ _ _ _ _ => keeps_bind (keeps_nothing _) fun _ _ _ _ _ => ?_
    refine keeps_bind (keeps_nothing _) fun _ _ _ _ _ => keeps_bind (keeps_nothing _) fun _ _ _ _ _ => ?_
    exact keeps_bind (keeps_nothing _) fun _ _ _ _ _ => keeps_pure trivial ⟨rfl, rfl⟩

theorem install_names : Reaches (fun outcome _ => Names prepared outcome) (install formats prepared) log disk := by
  have staged : Reaches (fun outcome _ => Names prepared outcome) (installStaged formats prepared) log disk := by
    refine keeps_bind (keeps_nothing _) fun _ _ _ _ _ => keeps_bind (keeps_nothing _) fun _ _ _ _ _ => ?_
    refine keeps_bind (keeps_nothing _) fun found log disk _ _ => ?_
    cases found.isSome with
    | true => exact finishExistingInstall_names
    | false =>
      refine keeps_bind (keeps_nothing _) fun _ _ _ _ _ => Reaches.orRecover ?_
      refine keeps_bind (keeps_nothing _) fun _ _ _ _ _ => keeps_bind (keeps_nothing _) fun _ _ _ _ _ => ?_
      refine keeps_bind (keeps_nothing _) fun _ _ _ _ _ => keeps_bind (keeps_nothing _) fun _ _ _ _ _ => ?_
      refine keeps_bind (keeps_nothing _) fun _ _ _ _ _ => keeps_bind (keeps_nothing _) fun _ _ _ _ _ => ?_
      refine keeps_bind (keeps_nothing _) fun _ _ _ _ _ => keeps_bind (keeps_nothing _) fun _ _ _ _ _ => ?_
      exact keeps_pure trivial ⟨rfl, rfl⟩
  refine staged.outcome.bind fun outcome log disk names => keeps_bind (keeps_nothing _) fun _ _ _ _ _ => ?_
  exact keeps_checked trivial (fun _ _ => trivial) names

end

/-! ## Preparing and installing -/

/-- The applications are as they were, and no journal is pending. -/
def Untouched (base disk : Disk Content) : Prop := disk.apps = base.apps ∧ disk.journals.keys = []

theorem untouched_recoverable (base : Disk Content) : Recoverable (Untouched base) where
  written disk name journal untouched found := absurd ((lookup_of_keys_nil untouched.2).symm.trans found) (by simp)
  mending before after name app journal untouched found _ _ :=
    absurd ((lookup_of_keys_nil untouched.2).symm.trans found) (by simp)
  mended before after name app journal untouched found _ _ :=
    absurd ((lookup_of_keys_nil untouched.2).symm.trans found) (by simp)

/-- Where no journal is pending, whatever the calls answer: an install that succeeds leaves the
    bundle of the archive's `bundle.json` current, and in its release that file and exactly the
    files that the bundle lists, each with its size and hash, unless that release was current
    already. -/
theorem install_exact (idle : disk.journals.keys = []) (archive : List (ArchiveEntry Content)) (stageRoot : String)
    (device : DeviceProfile) (answers : List Answer) {outcome : InstallOutcome}
    (ok : ((prepare formats archive stageRoot device >>= install formats).trace answers disk).result =
      some (.ok outcome))
    (moved : (disk.apps outcome.appId).current ≠ some outcome.contentId) :
    let after := ((prepare formats archive stageRoot device >>= install formats).trace answers disk).state
    (after.apps outcome.appId).current = some outcome.contentId ∧ ∃ entry ∈ archive, ∃ bundle tree,
      entry.kind = .file ∧ normal entry.path = "bundle.json" ∧ formats.bundle entry.content = .ok bundle ∧
      bundle.contentId = outcome.contentId ∧ (after.apps outcome.appId).releases.lookup outcome.contentId = some tree ∧
        Exact formats outcome.appId outcome.contentId bundle entry.content tree := by
  have reached : Reaches (fun outcome d => (disk.apps outcome.appId).current ≠ some outcome.contentId →
      ∃ entry ∈ archive, ∃ prepared : PreparedPackage Content, entry.kind = .file ∧ normal entry.path = "bundle.json" ∧
        formats.bundle entry.content = .ok prepared.bundle ∧ Succeeds formats prepared entry.content outcome d)
      (prepare formats archive stageRoot device >>= install formats) [] disk := by
    have prepares : Keeps (fun _ => True) (fun _ => Untouched disk) (fun _ _ _ => True) _
        (prepare formats archive stageRoot device) [] disk :=
      keeps_prepare (fun _ _ untouched same journals => ⟨same.trans untouched.1, by rw [journals]; exact untouched.2⟩)
        (untouched_recoverable disk) stageRoot device ⟨rfl, idle⟩
    refine Reaches.bind (M := fun prepared d => Untouched disk d ∧ StagedFrom formats archive prepared d)
      (prepares.weaken (fun _ _ _ => trivial) (fun _ _ _ _ failed => failed) fun _ _ _ _ ready => ⟨ready.1.1, ready.2⟩) ?_
    rintro prepared log d ⟨untouched, staged⟩
    obtain ⟨entry, packed, kind, named, parsed, staged⟩ := staged.described
    by_cases current : (disk.apps prepared.manifest.id).current = some prepared.bundle.contentId
    · refine install_names.weaken (fun _ _ kept => kept) (fun _ _ _ _ failed => failed) ?_
      rintro outcome _ _ - ⟨named, contents⟩ moved
      rw [named, contents] at moved
      exact absurd current moved
    · refine (reaches_install (lookup_of_keys_nil untouched.2) staged (by rw [OtherCurrent, untouched.1]; exact current)).weaken
        (fun _ _ kept => kept) (fun _ _ _ _ failed => failed) ?_
      intro outcome _ _ _ succeeds _
      exact ⟨entry, packed, prepared, kind, named, parsed, succeeds⟩
  obtain ⟨entry, packed, prepared, kind, path, parsed, named, contents, ⟨tree, found, exact⟩, current⟩ :=
    reached.ends (fun _ _ => trivial) ok moved
  rw [named, contents]
  exact ⟨current, entry, packed, prepared.bundle, tree, kind, path, parsed, rfl, found, exact⟩

theorem sketchpad_installs :
    ((prepare sketchpadFormats sketchpadArchive "stage" paperPro >>= install sketchpadFormats).trace
      (List.replicate 80 {}) {}).result =
      some (.ok ⟨sketchpad, sketchpadBundle.version, sketchpadBundle.contentId, none⟩) := by
  decide +kernel

/-- The sketchpad's bundle, onto an empty disk. -/
theorem install_exact_sketchpad :
    let after := ((prepare sketchpadFormats sketchpadArchive "stage" paperPro >>= install sketchpadFormats).trace
      (List.replicate 80 {}) {}).state
    (after.apps sketchpad).current = some sketchpadBundle.contentId ∧ ∃ entry ∈ sketchpadArchive, ∃ bundle tree,
      entry.kind = .file ∧ normal entry.path = "bundle.json" ∧ sketchpadFormats.bundle entry.content = .ok bundle ∧
      bundle.contentId = sketchpadBundle.contentId ∧
      (after.apps sketchpad).releases.lookup sketchpadBundle.contentId = some tree ∧
        Exact sketchpadFormats sketchpad sketchpadBundle.contentId bundle entry.content tree :=
  install_exact rfl sketchpadArchive "stage" paperPro (List.replicate 80 {}) sketchpad_installs (by decide)

end Remagic.Package
