import Remagic.Fallible
import Remagic.PackageInstall

/-!
# Runs of the package manager

Installs, rollbacks and uninstalls that may stop or fail anywhere, each followed by
recovery. An install keeps every application's pointers in agreement. A rollback and an
uninstall have no journal: they keep the agreement unless they stop between the manifest
and the state.
-/

namespace Remagic.Package
open Tasks Job
open Fallible (ok_of_bind)

variable {Content : Type} {formats : Formats Content} {booksRoot : Path} {disk base d before after : Disk Content}
  {app : AppId} {device : DeviceProfile}

inductive Operation (Content : Type) where
  | install (archive : List (ArchiveEntry Content)) (stageRoot : String) (device : DeviceProfile)
  | rollback (app : AppId) (version : Option String) (device : DeviceProfile)
  | uninstall (app : AppId) (purge : Bool)

/-- What the daemon does under its package lock. -/
def Operation.job (formats : Formats Content) (booksRoot : Path) : Operation Content → Transaction Content Unit
  | .install archive stageRoot device => do
    let prepared ← prepare formats archive stageRoot device
    let _ ← Package.install formats prepared
  | .rollback app version device => do
    let _ ← Package.rollback formats app version device
  | .uninstall app purge => do
    let _ ← Package.uninstall formats booksRoot app purge

/-- The pointers of every application agree, and no journal is pending. -/
structure Settled (disk : Disk Content) : Prop where
  idle : disk.journals.keys = []
  agree : ∀ app, Agree (disk.apps app)

theorem Settled.lookup (settled : Settled disk) (name : String) : disk.journals.lookup name = none :=
  lookup_of_keys_nil settled.idle

theorem Settled.wellKept (settled : Settled disk) : WellKept disk := by
  intro name journal found
  exact absurd ((settled.lookup name).symm.trans found) (by simp)

theorem Settled.sound (settled : Settled disk) : Sound disk := by
  refine ⟨settled.wellKept, fun app _ => settled.agree app, ?_⟩
  intro app journal found
  exact absurd ((settled.lookup app.value).symm.trans found) (by simp)

theorem Sound.settled (sound : Sound disk) (idle : disk.journals.keys = []) : Settled disk :=
  ⟨idle, fun app => sound.agree app (lookup_of_keys_nil idle)⟩

theorem Settled.of_same (settled : Settled before) (same : after.apps = before.apps)
    (journals : after.journals = before.journals) : Settled after :=
  ⟨by rw [journals]; exact settled.idle, by rw [same]; exact settled.agree⟩

theorem Settled.edit {f : AppFiles Content → AppFiles Content} (settled : Settled disk)
    (agree : Agree (f (disk.apps app))) : Settled (disk.edit app f) := by
  refine ⟨settled.idle, ?_⟩
  intro other
  by_cases same : other = app
  · subst same
    rw [edit_self]
    exact agree
  · rw [edit_other same]
    exact settled.agree other

/-! ## Preparing -/

/-- What depends on the applications and the journals alone. -/
def Unstaged (P : Disk Content → Prop) : Prop :=
  ∀ before after, P before → after.apps = before.apps → after.journals = before.journals → P after

/-- The stage holds a tree that passed every check of the bundle. -/
def Staged (formats : Formats Content) (prepared : PreparedPackage Content) (d : Disk Content) : Prop :=
  ∃ device tree, d.staging.lookup prepared.stageRoot = some tree ∧
    verifyStage formats prepared.stageRoot device tree = .ok prepared

/-- The file that an entry of the archive is unpacked to; a name that holds a NUL cannot be opened. -/
structure Unpacked (archive : List (ArchiveEntry Content)) (path : String) (file : File Content) (entry : ArchiveEntry Content) :
    Prop where
  packed : entry ∈ archive
  kind : entry.kind = .file
  named : path = normal entry.path
  spelled : '\x00' ∉ path.toList
  content : file.content = entry.content

/-- Every file of the tree was unpacked from the archive. -/
def TakenFrom (archive : List (ArchiveEntry Content)) (tree : Tree Content) : Prop :=
  ∀ path file, tree.lookup path = some file → ∃ entry, Unpacked archive path file entry

/-- The stage, if it is there, holds files of the archive alone. -/
def StageOf (archive : List (ArchiveEntry Content)) (name : String) (d : Disk Content) : Prop :=
  ∀ tree, d.staging.lookup name = some tree → TakenFrom archive tree

/-- The stage holds a tree of the archive's files that passed every check of the bundle. -/
def StagedFrom (formats : Formats Content) (archive : List (ArchiveEntry Content)) (prepared : PreparedPackage Content)
    (d : Disk Content) : Prop :=
  ∃ device tree, d.staging.lookup prepared.stageRoot = some tree ∧
    verifyStage formats prepared.stageRoot device tree = .ok prepared ∧ TakenFrom archive tree

theorem StagedFrom.staged {archive : List (ArchiveEntry Content)} {prepared : PreparedPackage Content}
    (staged : StagedFrom formats archive prepared d) : Staged formats prepared d := by
  obtain ⟨device, tree, there, ok, -⟩ := staged
  exact ⟨device, tree, there, ok⟩

/-- A stage that passed the checks holds its bundle's inventory. -/
theorem verifyStage_ok {stageRoot : String} {tree : Tree Content} {prepared : PreparedPackage Content}
    (ok : verifyStage formats stageRoot device tree = .ok prepared) :
    prepared.stageRoot = stageRoot ∧ (∃ file, tree.lookup "bundle.json" = some file ∧
      formats.bundle file.content = .ok prepared.bundle) ∧
      verifyInventory formats tree (.stage stageRoot) prepared.bundle = .ok () := by
  obtain ⟨bundleBytes, read, ok⟩ := ok_of_bind ok
  cases parsed : formats.bundle bundleBytes with
  | error message =>
    rw [parsed] at ok
    cases ok
  | ok bundle =>
    rw [parsed] at ok
    obtain ⟨_, _, ok⟩ := ok_of_bind ok
    obtain ⟨_, inventory, ok⟩ := ok_of_bind ok
    obtain ⟨manifestBytes, _, ok⟩ := ok_of_bind ok
    cases manifest : formats.manifest manifestBytes with
    | error message =>
      rw [manifest] at ok
      cases ok
    | ok manifest' =>
      rw [manifest] at ok
      obtain ⟨_, _, ok⟩ := ok_of_bind ok
      cases ok
      refine ⟨rfl, ?_, inventory⟩
      unfold readLimited at read
      split at read
      · cases read
      · split at read
        · cases read
        · cases read
          exact ⟨_, ‹_›, parsed⟩

/-- A fresh stage holds nothing. -/
theorem stageOf_fresh (archive : List (ArchiveEntry Content)) (name : String) (d : Disk Content) :
    StageOf archive name ((stageSlot name).set (some ∅) d) := by
  intro tree there path file found
  simp only [stageSlot, putTree, AList.lookup_insert, Option.some.injEq] at there
  subst there
  exact absurd found (by simp)

theorem StageOf.unpack {archive : List (ArchiveEntry Content)} {name path : String} {file : File Content}
    {entry : ArchiveEntry Content} (stage : StageOf archive name d) (unpacked : Unpacked archive path file entry) :
    StageOf archive name ((stageSlot name).edit (fun tree => tree.insert path file) d) := by
  intro tree there other found lookup
  unfold Slot.edit at there
  cases present : d.staging.lookup name with
  | none =>
    rw [stageSlot_get, present] at there
    exact stage tree there other found lookup
  | some old =>
    simp only [present, stageSlot, putTree, AList.lookup_insert, Option.some.injEq] at there
    subst there
    by_cases same : other = path
    · subst same
      rw [AList.lookup_insert, Option.some.injEq] at lookup
      exact ⟨entry, lookup ▸ unpacked⟩
    · rw [AList.lookup_insert_ne same] at lookup
      exact stage old present other found lookup

section
variable {allowed : Answer → Prop} {P : Disk Content → Prop} {log : List Place} (unstaged : Unstaged P)
  {archive : List (ArchiveEntry Content)}
include unstaged

theorem keeps_unpack (name : String) (entries : List (ArchiveEntry Content)) (packed : ∀ entry ∈ entries, entry ∈ archive)
    (seen : List String) (count expanded : Nat) (stands : P disk) (stage : StageOf archive name disk) :
    Keeps allowed (fun _ => P) (fun _ _ _ => True) (fun _ _ => StageOf archive name)
      (unpack formats (stageSlot name) entries seen count expanded) log disk := by
  induction entries generalizing log disk seen count expanded with
  | nil => exact keeps_pure stands stage
  | cons entry rest ih =>
    have fails : Fails allowed (fun _ => P) fun _ _ _ => True := fun _ _ _ _ _ => trivial
    have others : ∀ entry ∈ rest, entry ∈ archive := fun entry member => packed entry (List.mem_cons_of_mem _ member)
    refine keeps_guard stands (fun _ => trivial) fun _ => ?_
    cases kind : entry.kind with
    | dir => exact keeps_probe_bind fails (ih others _ _ _ stands stage)
    | other => exact keeps_throw stands trivial
    | file =>
      refine keeps_guard stands (fun _ => trivial) fun _ => ?_
      refine keeps_guard stands (fun _ => trivial) fun _ => ?_
      refine keeps_probe_bind fails ?_
      refine keeps_guard stands (fun _ => trivial) fun spelled => ?_
      have unpacked : Unpacked archive (normal entry.path) ⟨entry.content, entry.mode &&& 0o7777⟩ entry :=
        ⟨packed entry List.mem_cons_self, kind, rfl, by simpa using spelled, rfl⟩
      have added : P ((stageSlot name).edit (fun tree => tree.insert (normal entry.path)
          ⟨entry.content, entry.mode &&& 0o7777⟩) disk) :=
        unstaged disk _ stands (stageSlot_edit name _ disk).1 (stageSlot_edit name _ disk).2
      refine keeps_bind (M := fun _ _ => StageOf archive name) (keeps_change fails stands added (stage.unpack unpacked)) ?_
      intro _ log d kept stage
      exact ih others _ _ _ kept stage

theorem keeps_prepareAt (stageRoot : String) (device : DeviceProfile) (stands : P disk)
    (stage : StageOf archive stageRoot disk) :
    Keeps allowed (fun _ => P) (fun _ _ _ => True) (fun prepared _ => StagedFrom formats archive prepared)
      (prepareAt formats archive stageRoot device) log disk := by
  have fails : Fails allowed (fun _ => P) fun _ _ _ => True := fun _ _ _ _ _ => trivial
  refine keeps_probe_bind fails ?_
  refine keeps_bind (keeps_unpack unstaged stageRoot archive (fun _ => id) [] 0 0 stands stage) ?_
  intro _ log disk stands stage
  refine keeps_bind (keeps_look (Q := fun tree _ d => tree = d.staging.lookup stageRoot ∧ StageOf archive stageRoot d)
    fails stands ⟨rfl, stage⟩) ?_
  rintro _ log disk stands ⟨rfl, stage⟩
  refine keeps_checked stands (fun _ _ => trivial) ?_
  intro prepared ok
  obtain ⟨named, ⟨file, present, -⟩, -⟩ := verifyStage_ok ok
  subst named
  cases found : disk.staging.lookup prepared.stageRoot with
  | some tree =>
    rw [found] at ok
    exact ⟨device, tree, found, ok, stage tree found⟩
  | none =>
    rw [found] at present
    exact absurd present (by simp)

/-- Preparing recovers every application and then only stages. -/
theorem keeps_prepare_of {Q : Disk Content → Prop} (settles : ∀ d, P d → Q d)
    (recovers : Keeps allowed (fun _ => Q) (fun _ _ _ => True) (fun _ _ => P) recoverAll log disk) (stageRoot : String)
    (device : DeviceProfile) :
    Keeps allowed (fun _ => Q) (fun _ _ _ => True) (fun prepared _ d => P d ∧ StagedFrom formats archive prepared d)
      (prepare formats archive stageRoot device) log disk := by
  refine keeps_bind recovers ?_
  intro _ log disk _ stands
  -- from here on only the stage changes
  have fails : Fails allowed (fun _ => P) fun _ _ _ => True := fun _ _ _ _ _ => trivial
  refine (?_ : Keeps allowed (fun _ => P) (fun _ _ _ => True)
    (fun prepared _ d => StagedFrom formats archive prepared d) _ log disk).weaken (fun _ d kept => settles d kept)
    (fun _ _ _ _ failed => failed) fun _ _ _ kept staged => ⟨kept, staged⟩
  refine keeps_probe_bind fails ?_
  have made := unstaged disk ((stageSlot stageRoot).set (some ∅) disk) stands rfl rfl
  refine keeps_bind (M := fun _ _ => StageOf archive stageRoot) (keeps_changeWhen fails stands (fun _ => trivial)
    (fun _ => made) fun _ => stageOf_fresh archive stageRoot disk) ?_
  intro _ log disk stands stage
  refine keeps_bind (M := fun outcome _ d => ∀ prepared, outcome = .ok prepared → StagedFrom formats archive prepared d) ?_ ?_
  · refine keeps_outcome ((keeps_prepareAt unstaged stageRoot device stands stage).weaken (fun _ _ kept => kept) ?_ ?_)
    · intro error log d _ _ prepared same
      cases same
    · intro prepared log d _ staged other same
      cases same
      exact staged
  · intro outcome log disk stands staged
    cases outcome with
    | ok prepared => exact keeps_pure stands (staged prepared rfl)
    | error error =>
      refine keeps_bind (M := fun _ _ _ => True) (keeps_outcome ((keeps_removeStage stageRoot unstaged fails
        stands).weaken (fun _ _ kept => kept) (fun _ _ _ _ _ => trivial) fun _ _ _ _ _ => trivial)) ?_
      intro _ log disk stands _
      exact keeps_throw stands trivial

theorem keeps_prepare (recoverable : Recoverable P) (stageRoot : String) (device : DeviceProfile) (stands : P disk) :
    Keeps allowed (fun _ => P) (fun _ _ _ => True)
      (fun prepared _ d => (P d ∧ d.journals.keys = []) ∧ StagedFrom formats archive prepared d)
      (prepare formats archive stageRoot device) log disk := by
  have settled : Unstaged fun d : Disk Content => P d ∧ d.journals.keys = [] :=
    fun before after ⟨kept, idle⟩ same journals => ⟨unstaged before after kept same journals, by rw [journals]; exact idle⟩
  have fails : Fails allowed (fun _ => P) fun _ _ _ => True := fun _ _ _ _ _ => trivial
  exact keeps_prepare_of settled (fun _ kept => kept.1) ((keeps_recoverAll recoverable fails stands).weaken
    (fun _ _ kept => kept) (fun _ _ _ _ failed => failed) fun _ _ _ _ ready => ready) stageRoot device

end

/-! ## Installs -/

theorem Agree.asBefore {files later : AppFiles Content} (agree : Agree files) (same : AsBefore files later) :
    Agree later := by
  rcases agree with absent | ⟨id, describes⟩
  · exact .inl ⟨same.manifest.trans absent.manifest, same.current.trans absent.current, same.state.trans absent.state⟩
  · refine .inr ⟨id, ?_, same.current.trans describes.current, ?_, ?_⟩
    · rw [same.manifest]
      exact describes.manifest
    · rw [same.state]
      exact describes.state
    · rw [same.releases]
      exact describes.release

theorem Underway.agrees {bundle : BundleV1} {journal : TransactionJournalV1 Content} {files : AppFiles Content}
    (underway : Underway app bundle files journal d) (agree : Agree files) : JournalAgrees journal (d.apps app) := by
  have records := underway.records
  rcases agree with absent | ⟨id, describes⟩
  · exact .inl ⟨records.manifest.trans absent.manifest, records.current.trans absent.current,
      records.state.trans absent.state⟩
  · have stays : id ≠ bundle.contentId ∨ journal.targetPreexisted = true := by
      by_cases same : id = bundle.contentId
      · exact .inr (by rw [records.preexisted, ← same]; exact describes.release)
      · exact .inl same
    refine .inr ⟨id, ?_, records.current.trans describes.current, ?_, ?_, records.target ▸ stays⟩
    · rw [records.manifest]
      exact describes.manifest
    · rw [records.state]
      exact describes.state
    · rw [underway.releases id stays]
      exact describes.release

/-- Wherever an install that began on a settled disk stands, the disk is sound. -/
theorem Amid.sound {bundle : BundleV1} {bundled : Content} (amid : Amid app bundle bundled base d) (settled : Settled base) : Sound d := by
  refine ⟨amid.wellKept settled.wellKept, ?_, ?_⟩
  · intro other idle
    by_cases same : other = app
    · subst same
      cases amid.midway with
      | untouched _ same => exact (settled.agree other).asBefore same
      | underway journal underway => exact absurd (idle.symm.trans underway.found) (by simp)
      | landed landed => exact .inr ⟨_, landed.publishes.toDescribes⟩
    · rw [amid.frame.others other same]
      exact settled.agree other
  · intro other journal found
    by_cases same : other = app
    · subst same
      exact (amid.midway.own found).agrees (settled.agree other)
    · have different : other.value ≠ app.value := by
        intro values
        apply same
        cases other
        cases app
        cases values
        rfl
      rw [amid.frame.journals _ different] at found
      exact absurd ((settled.lookup _).symm.trans found) (by simp)

theorem settled_recoverable : Recoverable fun disk : Disk Content => Settled disk where
  written disk name journal settled found := settled.wellKept name journal found
  mending before after name app journal settled found _ _ :=
    absurd ((settled.lookup name).symm.trans found) (by simp)
  mended before after name app journal settled found _ _ :=
    absurd ((settled.lookup name).symm.trans found) (by simp)

/-- An install keeps the pointers of every application sound. -/
theorem install_sound (settled : Settled disk) {archive : List (ArchiveEntry Content)} {stageRoot : String} :
    Keeps Truthful (fun _ => Sound) (fun _ _ _ => True) (fun _ _ => Sound)
      ((Operation.install archive stageRoot device).job formats booksRoot) [] disk := by
  have prepares : Keeps Truthful (fun _ => Settled) (fun _ _ _ => True) _ (prepare formats archive stageRoot device) [] disk :=
    keeps_prepare (fun before after settled same journals => Settled.of_same settled same journals) settled_recoverable
      stageRoot device settled
  refine keeps_bind (M := fun _ _ => Settled) (prepares.weaken (fun _ _ settled => settled.sound)
    (fun _ _ _ _ failed => failed) fun _ _ _ _ ready => ready.1.1) ?_
  intro prepared log d _ settled
  refine keeps_bind (M := fun _ _ => Sound) ((keeps_install formats settled.wellKept (fun _ => id)
    (settled.lookup _) (settled.agree _).linkNamed).weaken (fun _ _ amid => amid.sound settled) (fun _ _ _ _ failed => failed)
    fun _ _ _ amid _ => amid.sound settled) ?_
  intro _ log d sound _
  exact keeps_pure sound sound

/-! ## Rollbacks -/

/-- An attempt that changed the manifest has changed the state too. -/
def Whole (app : AppId) (log : List Place) : Prop := Place.manifest app ∈ log → Place.state app ∈ log

/-- The disk is sound, unless the attempt stands between the manifest and the state. -/
def SoundIfWhole (app : AppId) (log : List Place) (disk : Disk Content) : Prop := Whole app log → Sound disk

section
variable {allowed : Answer → Prop} {inv : List Place → Disk Content → Prop}

theorem soundIfWhole_fails : Fails allowed (fun log (disk : Disk Content) => SoundIfWhole app log disk) fun _ _ _ => True :=
  fun _ _ _ _ _ => trivial

theorem keeps_matching {log : List Place} (version : String) (names : List ContentId) (stands : inv log disk) :
    Keeps allowed inv (fun _ _ _ => True) (fun _ later d => later = log ∧ d = disk) (matching formats app version names)
      log disk := by
  induction names with
  | nil => exact keeps_pure stands ⟨rfl, rfl⟩
  | cons name rest ih =>
    refine keeps_bind (keeps_glance (Q := fun _ later d => later = log ∧ d = disk) stands (fun _ => ⟨rfl, rfl⟩)
      ⟨rfl, rfl⟩) ?_
    rintro text _ _ _ ⟨rfl, rfl⟩
    refine keeps_bind ih ?_
    rintro others _ _ _ ⟨rfl, rfl⟩
    split
    · split
      · exact keeps_pure stands ⟨rfl, rfl⟩
      · exact keeps_pure stands ⟨rfl, rfl⟩
    · exact keeps_pure stands ⟨rfl, rfl⟩

theorem keeps_releaseForVersion {log : List Place} (version : String) (stands : inv log disk) :
    Keeps allowed inv (fun _ _ _ => True) (fun _ later d => later = log ∧ d = disk)
      (releaseForVersion formats app version) log disk := by
  refine keeps_bind (keeps_readDir (Q := fun _ later d => later = log ∧ d = disk) (fun _ _ _ _ _ => trivial) stands
    fun _ _ => ⟨rfl, rfl⟩) ?_
  rintro names _ _ _ ⟨rfl, rfl⟩
  refine keeps_bind (keeps_matching version names stands) ?_
  rintro found _ _ _ ⟨rfl, rfl⟩
  split
  · exact keeps_pure stands ⟨rfl, rfl⟩
  · exact keeps_throw stands trivial

/-- The manifest that a rollback publishes is its target's, which is there. -/
theorem keeps_rollbackManifest {log : List Place} {target : ContentId} (stands : inv log disk) :
    Keeps allowed inv (fun _ _ _ => True) (fun found later d => found.1.release = target ∧
      ((disk.apps app).releases.lookup target).isSome = true ∧ later = log ∧ d = disk)
      (rollbackManifest formats app target device) log disk := by
  refine keeps_bind (keeps_look (Q := fun found later d => found = ((releaseSlot app target).get disk).bind (fun tree =>
    (tree.lookup "manifest.toml").map File.content) ∧ later = log ∧ d = disk) (fun _ _ _ _ _ => trivial) stands
    ⟨rfl, rfl, rfl⟩) ?_
  rintro found log disk _ ⟨read, rfl, rfl⟩
  cases found with
  | none => exact keeps_throw stands trivial
  | some bundled =>
    obtain ⟨tree, present, -⟩ := Option.bind_eq_some_iff.mp read.symm
    refine keeps_bind (keeps_checked (Q := fun text later d => text.release = target ∧ later = log ∧ d = disk) stands
      (fun _ _ => trivial) fun _ ok => ⟨by rw [materialize_eq formats ok], rfl, rfl⟩) ?_
    rintro text _ _ _ ⟨named, rfl, rfl⟩
    cases formats.materialized bundled app target with
    | error message => exact keeps_throw stands trivial
    | ok manifest =>
      refine keeps_guard stands (fun _ => trivial) fun _ => ?_
      refine keeps_pure stands ⟨named, ?_, rfl, rfl⟩
      rw [releaseSlot_get] at present
      rw [present]
      rfl

theorem not_whole_manifest (extra : List Place) (quiet : Place.state app ∉ extra) :
    ¬ Whole app (.manifest app :: extra) := by
  intro whole
  rcases List.mem_cons.mp (whole List.mem_cons_self) with same | later
  · cases same
  · exact quiet later

/-- A rollback that gets from the manifest to the state keeps the pointers sound. -/
theorem rollback_sound (settled : Settled disk) {version : Option String} :
    Keeps allowed (SoundIfWhole app) (fun _ _ _ => True) (fun _ => SoundIfWhole app)
      ((Operation.rollback app version device).job formats booksRoot) [] disk := by
  have stands : SoundIfWhole app [] disk := fun _ => settled.sound
  refine keeps_bind (M := fun _ => SoundIfWhole app) ?_ fun _ _ _ kept _ => keeps_pure kept kept
  refine keeps_bind (keeps_recoverFor_idle (settled.lookup _) stands) ?_
  rintro _ _ disk _ ⟨rfl, rfl⟩
  refine keeps_bind (keeps_readState soundIfWhole_fails (fun _ => trivial) stands) ?_
  rintro state _ disk _ ⟨found, rfl, rfl⟩
  refine keeps_bind (M := fun _ later d => later = [] ∧ d = disk) ?_ ?_
  · cases version with
    | some version => exact keeps_releaseForVersion version stands
    | none => exact keeps_checked stands (fun _ _ => trivial) fun _ _ => ⟨rfl, rfl⟩
  rintro target _ disk _ ⟨rfl, rfl⟩
  refine keeps_guard stands (fun _ => trivial) fun _ => ?_
  refine keeps_bind (keeps_rollbackManifest stands) ?_
  rintro ⟨text, manifest⟩ _ disk _ ⟨named, present, rfl, rfl⟩
  simp only at named ⊢
  have torn : ∀ d : Disk Content, SoundIfWhole app [.manifest app] d :=
    fun d whole => absurd whole (not_whole_manifest [] List.not_mem_nil)
  refine keeps_bind (M := fun _ later d => later = [.manifest app] ∧ d = setManifest app (some text) disk)
    (keeps_atomicWrite soundIfWhole_fails stands (torn _) ⟨rfl, rfl⟩) ?_
  rintro _ _ _ _ ⟨rfl, rfl⟩
  have torn' : ∀ d : Disk Content, SoundIfWhole app [.manifest app, .current app] d :=
    fun d whole => absurd whole (not_whole_manifest [.current app] (by simp))
  refine keeps_bind (M := fun _ later d => later = [.manifest app, .current app] ∧
    d = setCurrent app (some target) (setManifest app (some text) disk))
    (keeps_atomicSymlink soundIfWhole_fails (torn _) (torn' _) ⟨rfl, rfl⟩) ?_
  rintro _ _ _ _ ⟨rfl, rfl⟩
  let next : InstalledPackageStateV1 :=
    { appId := app.value, package := state.package, currentContentId := target,
      previousContentId := some state.currentContentId, version := manifest.version }
  have described : Describes { disk.apps app with manifest := some text, current := some target, state := some next }
      target := ⟨by simp [named], rfl, rfl, present⟩
  have settled' : Settled (setState app (some next) (setCurrent app (some target) (setManifest app (some text) disk))) := by
    have edited := settled.edit (f := fun files =>
      { files with manifest := some text, current := some target, state := some next }) (.inr ⟨target, described⟩)
    simpa [setState, setCurrent, setManifest, Disk.edit] using edited
  refine keeps_bind (M := fun _ => SoundIfWhole app)
    (keeps_atomicWrite soundIfWhole_fails (torn' _) (fun _ => settled'.sound) fun _ => settled'.sound) ?_
  intro _ log d kept _
  exact keeps_pure kept kept

/-! ## Uninstalls -/

theorem keeps_purgeApplicationData {log : List Place} {manifest : AppManifest} (stands : inv log disk) :
    Keeps allowed inv (fun _ _ _ => True) (fun _ later d => later = log ∧ d = disk)
      (purgeApplicationData booksRoot manifest) log disk := by
  unfold purgeApplicationData
  cases manifest.directories with
  | none => exact keeps_pure stands ⟨rfl, rfl⟩
  | some directories =>
    refine keeps_each (R := fun _ later d => later = log ∧ d = disk) ?_ ?_ ⟨rfl, rfl⟩
    · rintro _ _ _ ⟨rfl, rfl⟩
      exact stands
    · rintro path rest _ _ _ ⟨rfl, rfl⟩
      refine keeps_guard stands (fun _ => trivial) fun _ => ?_
      exact keeps_probe (fun _ _ _ _ _ => trivial) stands

/-- While an uninstall clears the application's directory, its manifest is gone, its state
    is not, and no other application has changed. -/
structure Clearing (app : AppId) (base : Disk Content) (log : List Place) (d : Disk Content) : Prop where
  begun : Place.manifest app ∈ log
  before : Place.state app ∉ log
  manifest : (d.apps app).manifest = none
  others : ∀ other, other ≠ app → d.apps other = base.apps other
  journals : d.journals = base.journals

theorem Clearing.later {log : List Place} {place : Place} (clearing : Clearing app base log d)
    (other : place ≠ .state app) : Clearing app base (log ++ [place]) d := by
  refine ⟨List.mem_append_left _ clearing.begun, ?_, clearing.manifest, clearing.others, clearing.journals⟩
  intro member
  rcases List.mem_append.mp member with earlier | last
  · exact clearing.before earlier
  · exact other (List.mem_singleton.mp last).symm

theorem Clearing.edit {log : List Place} {change : AppFiles Content → AppFiles Content}
    (clearing : Clearing app base log d) (kept : ∀ files, (change files).manifest = files.manifest) :
    Clearing app base log (d.edit app change) := by
  refine ⟨clearing.begun, clearing.before, ?_, ?_, clearing.journals⟩
  · rw [edit_self, kept]
    exact clearing.manifest
  · intro other different
    rw [edit_other different]
    exact clearing.others other different

theorem Clearing.set {log : List Place} {name : ContentId} {tree : Option (Tree Content)}
    (clearing : Clearing app base log d) : Clearing app base log ((releaseSlot app name).set tree d) := by
  rw [releaseSlot_set]
  exact clearing.edit fun _ => rfl

/-- Where the link is gone, or is still to be removed. -/
def LinkLeft (app : AppId) (rest : List String) (d : Disk Content) : Prop :=
  (d.apps app).current = none ∨ "current" ∈ rest

theorem clearing_wears (rest : List String) (name : ContentId) :
    Wears (fun log (d : Disk Content) => Clearing app base log d ∧ LinkLeft app rest d) (releaseSlot app name) := by
  have other : Place.release app name ≠ .state app := by simp
  refine release_wears (fun log d ⟨clearing, left⟩ => ⟨clearing.later other, left⟩) ?_
  rintro log d tree ⟨clearing, left⟩
  refine ⟨clearing.set.later other, ?_⟩
  unfold LinkLeft
  rw [releaseSlot_set, edit_self]
  exact left

/-- Clearing the directory removes the link. -/
theorem keeps_removeAppRoot {log : List Place} (stands : Clearing app base log disk) :
    Keeps allowed (Clearing app base) (fun _ _ _ => True)
      (fun _ later d => Clearing app base later d ∧ (d.apps app).current = none) (removeAppRoot app) log disk := by
  have fails : ∀ inv : List Place → Disk Content → Prop, Fails allowed inv fun _ _ _ => True :=
    fun _ _ _ _ _ _ => trivial
  refine keeps_probe_bind (fails _) ?_
  refine keeps_bind (keeps_readDir (Q := fun _ => Clearing app base) (fails _) stands fun _ _ => stands) ?_
  intro names log disk _ stands
  refine keeps_bind (M := fun _ => Clearing app base) ?_ ?_
  · refine keeps_each (R := fun _ => Clearing app base) (fun _ _ _ kept => kept) ?_ stands
    intro name rest log disk _ stands
    refine keeps_makeWritable (fails _) ?_ stands
    intro log d mode path clearing
    have other : Place.release app name ≠ .state app := by simp
    rcases releaseSlot_edit app name (fun tree => Tree.chmod tree mode path) d with same | ⟨tree, edited⟩
    · rw [same]
      exact clearing.later other
    · rw [edited]
      exact clearing.set.later other
  intro _ log disk _ stands
  refine keeps_bind (keeps_readDir (Q := fun entries log d => Clearing app base log d ∧ LinkLeft app entries d)
    (fails _) stands ?_) ?_
  · intro entries listed
    refine ⟨stands, ?_⟩
    cases current : (disk.apps app).current with
    | none => exact .inl current
    | some id => exact .inr (listed.mem_iff.mpr (by simp [appEntries, current]))
  rintro entries log disk _ ⟨stands, left⟩
  refine keeps_bind (M := fun _ log d => Clearing app base log d ∧ LinkLeft app [] d) ?_ ?_
  · refine keeps_each (R := fun rest log d => Clearing app base log d ∧ LinkLeft app rest d)
      (fun _ _ _ kept => kept.1) ?_ ⟨stands, left⟩
    rintro entry rest log disk _ ⟨stands, left⟩
    unfold removeAppEntry
    by_cases link : entry = "current"
    · rw [if_pos link]
      have gone : Clearing app base (log ++ [.current app]) (setCurrent app none disk) :=
        Clearing.later (stands.edit fun _ => rfl) (by simp)
      refine keeps_change (fails _) stands gone ⟨gone, .inl ?_⟩
      rw [setCurrent, edit_self]
    · rw [if_neg link]
      have left : LinkLeft app rest disk :=
        left.imp id fun member => (List.mem_cons.mp member).resolve_left (Ne.symm link)
      refine keeps_bind (keeps_readDir (Q := fun _ log d => Clearing app base log d ∧ LinkLeft app rest d) (fails _)
        stands fun _ _ => ⟨stands, left⟩) ?_
      rintro names log disk _ ⟨stands, left⟩
      refine keeps_bind (M := fun _ log d => Clearing app base log d ∧ LinkLeft app rest d) ?_ ?_
      · refine keeps_each (R := fun _ log d => Clearing app base log d ∧ LinkLeft app rest d)
          (fun _ _ _ kept => kept.1) ?_ ⟨stands, left⟩
        intro name others log disk _ kept
        exact (keeps_removeDirAll (fails _) (clearing_wears rest name) (releaseSlot_lawful app name) kept).weaken
          (fun _ _ kept => kept.1) (fun _ _ _ _ failed => failed) fun _ _ _ _ kept => kept.1
      · rintro _ log disk _ ⟨stands, left⟩
        refine (keeps_probe (fails _) stands).weaken (fun _ _ kept => kept) (fun _ _ _ _ failed => failed) ?_
        rintro _ _ d kept ⟨-, rfl⟩
        exact ⟨kept, left⟩
  rintro _ log disk _ ⟨stands, left⟩
  refine (keeps_probe (fails _) stands).weaken (fun _ _ kept => kept) (fun _ _ _ _ failed => failed) ?_
  rintro _ _ d kept ⟨-, rfl⟩
  exact ⟨kept, left.resolve_right List.not_mem_nil⟩

/-- From the removal of the manifest to that of the state. -/
theorem keeps_removal (settled : Settled disk) {outcome : UninstallOutcome} :
    Keeps allowed (SoundIfWhole app) (fun _ _ _ => True) (fun _ => SoundIfWhole app)
      (do
        changeWhen (.manifest app) (fun disk => (disk.apps app).manifest.isSome) (setManifest app none)
        removeAppRoot app
        removeState app
        return outcome) [] disk := by
  have clearing : Clearing app disk [.manifest app] (setManifest app none disk) := by
    refine ⟨List.mem_cons_self, by simp, ?_, fun other different => edit_other different _ _, rfl⟩
    rw [setManifest, edit_self]
  have torn : ∀ log d, Clearing app disk log d → SoundIfWhole app log d :=
    fun log d clearing whole => absurd (whole clearing.begun) clearing.before
  refine keeps_bind (M := fun _ => Clearing app disk) (keeps_changeWhen soundIfWhole_fails
    (fun _ => settled.sound) (fun _ => trivial) (fun _ => torn _ _ clearing) fun _ => clearing) ?_
  rintro _ log d _ clearing
  refine keeps_bind ((keeps_removeAppRoot clearing).weaken torn (fun _ _ _ _ failed => failed) fun _ _ _ _ kept => kept) ?_
  rintro _ log d _ ⟨clearing, unlinked⟩
  have settled' : Settled (setState app none d) := by
    refine ⟨?_, ?_⟩
    · show d.journals.keys = []
      rw [clearing.journals]
      exact settled.idle
    · intro other
      by_cases same : other = app
      · subst same
        rw [setState, edit_self]
        exact .inl ⟨clearing.manifest, unlinked, rfl⟩
      · rw [setState, edit_other same, clearing.others other same]
        exact settled.agree other
  refine keeps_bind (M := fun _ => SoundIfWhole app)
    (keeps_change soundIfWhole_fails (torn _ _ clearing) (fun _ => settled'.sound) fun _ => settled'.sound) ?_
  intro _ log d kept _
  exact keeps_pure kept kept

/-- An uninstall that gets from the manifest to the state keeps the pointers sound. -/
theorem uninstall_sound (settled : Settled disk) {purge : Bool} :
    Keeps allowed (SoundIfWhole app) (fun _ _ _ => True) (fun _ => SoundIfWhole app)
      ((Operation.uninstall app purge).job formats booksRoot) [] disk := by
  have stands : SoundIfWhole app [] disk := fun _ => settled.sound
  refine keeps_bind (M := fun _ => SoundIfWhole app) ?_ fun _ _ _ kept _ => keeps_pure kept kept
  refine keeps_bind (keeps_recoverFor_idle (settled.lookup _) stands) ?_
  rintro _ _ disk _ ⟨rfl, rfl⟩
  refine keeps_bind (keeps_look (Q := fun _ later d => later = [] ∧ d = disk) soundIfWhole_fails stands ⟨rfl, rfl⟩) ?_
  rintro found _ disk _ ⟨rfl, rfl⟩
  cases found with
  | none => exact keeps_throw stands trivial
  | some text =>
    simp only
    cases formats.materialized text.bundled app text.release with
    | error message => exact keeps_throw stands trivial
    | ok manifest =>
      refine keeps_guard stands (fun _ => trivial) fun _ => ?_
      cases purge with
      | false => exact keeps_removal settled
      | true =>
        refine keeps_bind (keeps_purgeApplicationData stands) ?_
        rintro _ _ disk _ ⟨rfl, rfl⟩
        exact keeps_removal settled

end

/-! ## Runs -/

/-- The conditions on one attempt: an install is told the truth about what is there, and
    a rollback or an uninstall that changes the manifest gets to change the state. -/
def Operation.Fit : Operation Content → List Answer → List Place → Prop
  | .install _ _ _, answers, _ => ∀ answer ∈ answers, Truthful answer
  | .rollback app _ _, _, log => Whole app log
  | .uninstall app _, _, log => Whole app log

/-- Attempts of operations, each stopped anywhere, and each followed by recoveries that
    may stop or fail until one succeeds. -/
inductive Run (formats : Formats Content) (booksRoot : Path)
    (fit : Operation Content → List Answer → List Place → Prop) : Disk Content → Prop where
  | start : Run formats booksRoot fit {}
  | attempt {disk stopped : Disk Content} (run : Run formats booksRoot fit disk) (operation : Operation Content)
      (answers : List Answer)
      (fits : fit operation answers ((operation.job formats booksRoot).trace answers disk).left)
      (reruns : Rerun ((operation.job formats booksRoot).trace answers disk).state stopped) (last : List Answer)
      (recovered : (recoverAll.trace last stopped).result = some (.ok ())) :
      Run formats booksRoot fit (recoverAll.trace last stopped).state

/-- An attempt that meets its condition leaves a sound disk, wherever it stops. -/
theorem attempt_sound (settled : Settled disk) (operation : Operation Content) (answers : List Answer)
    (fits : operation.Fit answers ((operation.job formats booksRoot).trace answers disk).left) :
    Sound ((operation.job formats booksRoot).trace answers disk).state := by
  cases operation with
  | install archive stageRoot device => exact (install_sound settled).stands fits
  | rollback app version device =>
    have keeps : Keeps (fun _ => True) _ _ _ ((Operation.rollback app version device).job formats booksRoot) [] disk :=
      rollback_sound settled
    exact keeps.stands (fun _ _ => trivial) fits
  | uninstall app purge =>
    have keeps : Keeps (fun _ => True) _ _ _ ((Operation.uninstall app purge).job formats booksRoot) [] disk :=
      uninstall_sound settled
    exact keeps.stands (fun _ _ => trivial) fits

/-- In every run whose attempts meet their conditions, the pointers of every application
    agree whenever recovery is done. -/
theorem pointers_agree (run : Run formats booksRoot Operation.Fit disk) (app : AppId) : Agree (disk.apps app) := by
  have settled : Settled disk := by
    induction run with
    | start => exact ⟨rfl, fun _ => .inl ⟨rfl, rfl, rfl⟩⟩
    | attempt run operation answers fits reruns last recovered ih =>
      have stands := reruns.kept sound_recoverable (attempt_sound ih operation answers fits)
      obtain ⟨sound, idle⟩ := recoverAll_done sound_recoverable stands recovered
      exact sound.settled idle
  exact settled.agree app

def paperPro : DeviceProfile := ⟨.paperPro, "3.27.3.0"⟩

/-- The sketchpad's bundle is installed, and recovery has nothing to do. -/
def sketchpadInstalled : Disk Nat :=
  (recoverAll.trace [{}] (((Operation.install sketchpadArchive "stage" paperPro).job sketchpadFormats []).trace
    (List.replicate 80 {}) {}).state).state

theorem sketchpadInstalled_run : Run sketchpadFormats [] Operation.Fit sketchpadInstalled := by
  refine .attempt .start (.install sketchpadArchive "stage" paperPro) (List.replicate 80 {}) ?_ .none [{}] (by decide +kernel)
  intro answer told
  rw [List.eq_of_mem_replicate told]
  rfl

theorem pointers_agree_sketchpad :
    (sketchpadInstalled.apps sketchpad).current = some sketchpadBundle.contentId ∧
      Agree (sketchpadInstalled.apps sketchpad) :=
  ⟨by decide +kernel, pointers_agree sketchpadInstalled_run sketchpad⟩

theorem Run.unfit {fit : Operation Content → List Answer → List Place → Prop} (run : Run formats booksRoot fit disk) :
    Run formats booksRoot (fun _ _ _ => True) disk := by
  induction run with
  | start => exact .start
  | attempt run operation answers fits reruns last recovered ih =>
    exact .attempt ih operation answers trivial reruns last recovered

/-- The sketchpad once its uninstall stopped after removing the manifest: recovery found
    no journal. -/
def sketchpadStranded : Disk Nat :=
  (recoverAll.trace [{}] (((Operation.uninstall sketchpad false).job sketchpadFormats []).trace
    (List.replicate 3 {}) sketchpadInstalled).state).state

theorem sketchpadStranded_files :
    (sketchpadStranded.apps sketchpad).manifest.isNone ∧ (sketchpadStranded.apps sketchpad).current.isSome := by
  decide +kernel

/-- An uninstall that stops once it has removed the manifest leaves the link and the state,
    and recovery, which finds no journal, leaves them too. -/
theorem uninstall_strands_pointers :
    ¬ ∀ disk, Run sketchpadFormats [] (fun _ _ _ => True) disk → Agree (disk.apps sketchpad) := by
  intro claimed
  have stranded : Agree (sketchpadStranded.apps sketchpad) :=
    claimed _ (.attempt sketchpadInstalled_run.unfit (.uninstall sketchpad false) (List.replicate 3 {})
      trivial .none [{}] (by decide +kernel))
  obtain ⟨unpublished, linked⟩ := sketchpadStranded_files
  rcases stranded with absent | ⟨id, describes⟩
  · rw [absent.current] at linked
    exact absurd linked (by decide)
  · have published := describes.manifest
    rw [Option.isNone_iff_eq_none.mp unpublished] at published
    exact absurd published (by simp)

end Remagic.Package
