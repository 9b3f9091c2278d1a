import Remagic.PackagePointers

/-!
# Installing a bundle

What stands at every point of an install, and of the recoveries after it: either
nothing of the application has changed, or a journal keeps what it was, or the bundle
is published. From this an install that stops anywhere leaves, once recovered, all of
the old application or all of the new one.
-/

namespace Remagic.Package
open Tasks Job

variable {Content : Type} {inv : List Place → Disk Content → Prop}
  {fail : PackageError → List Place → Disk Content → Prop} {log : List Place} {disk base d before after : Disk Content}
  {app : AppId} {bundle : BundleV1} {bundled : Content} {journal : TransactionJournalV1 Content} {files : AppFiles Content}

/-- Only the application's files, its journal and the stages have changed. -/
structure Frame (app : AppId) (base d : Disk Content) : Prop where
  others : ∀ other, other ≠ app → d.apps other = base.apps other
  journals : ∀ name, name ≠ app.value → d.journals.lookup name = base.journals.lookup name

/-- The application is as it was. -/
structure AsBefore (before files : AppFiles Content) : Prop where
  manifest : files.manifest = before.manifest
  current : files.current = before.current
  state : files.state = before.state
  releases : ∀ id, files.releases.lookup id = before.releases.lookup id

/-- Every pointer names the bundle's release, which is there, and the manifest is made of the
    bundled text. -/
structure Publishes (bundle : BundleV1) (bundled : Content) (files : AppFiles Content) :
    Prop extends Describes files bundle.contentId where
  text : files.manifest.map Published.bundled = some bundled
  version : files.state.map InstalledPackageStateV1.version = some bundle.version
  package : files.state.map InstalledPackageStateV1.package = some bundle.package

/-- The journal keeps the application as it was. -/
structure Records (journal : TransactionJournalV1 Content) (bundle : BundleV1) (before : AppFiles Content) : Prop where
  target : journal.targetContentId = bundle.contentId
  preexisted : journal.targetPreexisted = (before.releases.lookup bundle.contentId).isSome
  current : journal.previousContentId = before.current
  manifest : journal.previousManifest = before.manifest
  state : journal.previousState = before.state

/-- An install of the bundle is under way: its journal is pending. -/
structure Underway (app : AppId) (bundle : BundleV1) (before : AppFiles Content) (journal : TransactionJournalV1 Content)
    (d : Disk Content) : Prop where
  found : d.journals.lookup app.value = some journal
  written : Written app.value app journal
  records : Records journal bundle before
  releases : ∀ id, id ≠ bundle.contentId ∨ journal.targetPreexisted = true →
    (d.apps app).releases.lookup id = before.releases.lookup id

/-- The bundle is installed. -/
structure Landed (app : AppId) (bundle : BundleV1) (bundled : Content) (d : Disk Content) : Prop where
  idle : d.journals.lookup app.value = none
  publishes : Publishes bundle bundled (d.apps app)

/-- Where an install may stand. -/
inductive Midway (app : AppId) (bundle : BundleV1) (bundled : Content) (before : AppFiles Content) (d : Disk Content) :
    Prop where
  | untouched (idle : d.journals.lookup app.value = none) (same : AsBefore before (d.apps app))
  | underway (journal : TransactionJournalV1 Content) (underway : Underway app bundle before journal d)
  | landed (landed : Landed app bundle bundled d)

/-! ## Recovery -/

theorem asBefore_refl (files : AppFiles Content) : AsBefore files files := ⟨rfl, rfl, rfl, fun _ => rfl⟩

/-- What recovery restores is what the journal kept. -/
theorem Underway.restored {files : AppFiles Content} (underway : Underway app bundle files journal before)
    (restored : Restored journal (after.apps app)) (beside : Beside app journal before after) :
    AsBefore files (after.apps app) := by
  have records := underway.records
  refine ⟨restored.manifest.trans records.manifest, restored.current.trans records.current,
    restored.state.trans records.state, ?_⟩
  intro id
  by_cases stays : id ≠ bundle.contentId ∨ journal.targetPreexisted = true
  · rw [← underway.releases id stays]
    exact beside.releases id (records.target ▸ stays)
  · obtain ⟨same, brought⟩ := not_or.mp stays
    have same : id = bundle.contentId := by simpa using same
    have brought : journal.targetPreexisted = false := by simpa using brought
    have gone := restored.target brought
    rw [records.target] at gone
    rw [same, gone]
    have absent := records.preexisted
    rw [brought] at absent
    exact (Option.not_isSome_iff_eq_none.mp (by simp [← absent])).symm

theorem Midway.of_same {files : AppFiles Content} (midway : Midway app bundle bundled files before)
    (same : after.apps app = before.apps app)
    (journals : after.journals.lookup app.value = before.journals.lookup app.value) : Midway app bundle bundled files after := by
  cases midway with
  | untouched idle asBefore => exact .untouched (journals.trans idle) (by rw [same]; exact asBefore)
  | underway journal underway =>
    exact .underway journal ⟨journals.trans underway.found, underway.written, underway.records,
      by rw [same]; exact underway.releases⟩
  | landed landed => exact .landed ⟨journals.trans landed.idle, by rw [same]; exact landed.publishes⟩

theorem midway_recoverable (app : AppId) (bundle : BundleV1) (bundled : Content) (files : AppFiles Content) :
    Recoverable fun d => WellKept d ∧ Midway app bundle bundled files d where
  written disk name journal kept found := kept.1 name journal found
  mending := by
    rintro before after name other journal ⟨kept, midway⟩ found written mending
    refine ⟨wellKept_of_journals kept mending.journals, ?_⟩
    by_cases same : app = other
    · subst same
      cases midway with
      | untouched idle _ =>
        rw [written.named, found] at idle
        exact absurd idle (by simp)
      | landed landed =>
        have idle := landed.idle
        rw [written.named, found] at idle
        exact absurd idle (by simp)
      | underway journal' underway =>
        have found' := underway.found
        rw [written.named, found] at found'
        cases found'
        refine .underway journal ⟨by rw [mending.journals]; exact underway.found, underway.written, underway.records, ?_⟩
        intro id stays
        rw [mending.beside.releases id (underway.records.target ▸ stays)]
        exact underway.releases id stays
    · exact midway.of_same (mending.beside.others app same) (by rw [mending.journals])
  mended := by
    rintro before after name other journal ⟨kept, midway⟩ found written mended
    refine ⟨wellKept_of_erase kept mended.journals, ?_⟩
    by_cases same : app = other
    · subst same
      cases midway with
      | untouched idle _ =>
        rw [written.named, found] at idle
        exact absurd idle (by simp)
      | landed landed =>
        have idle := landed.idle
        rw [written.named, found] at idle
        exact absurd idle (by simp)
      | underway journal' underway =>
        have found' := underway.found
        rw [written.named, found] at found'
        cases found'
        refine .untouched ?_ (underway.restored mended.restored mended.beside)
        rw [mended.journals]
        exact AList.lookup_erase _ _
    · refine midway.of_same (mended.beside.others app same) ?_
      have different : app.value ≠ other.value := fun values => same (written_app written (values.trans written.named))
      rw [mended.journals, AList.lookup_erase_ne different]

/-! ## Edits -/

theorem frame_refl (app : AppId) (disk : Disk Content) : Frame app disk disk := ⟨fun _ _ => rfl, fun _ _ => rfl⟩

theorem Frame.edit {change : AppFiles Content → AppFiles Content} (frame : Frame app base d) :
    Frame app base (d.edit app change) := by
  refine ⟨?_, frame.journals⟩
  intro other different
  rw [edit_other different]
  exact frame.others other different

theorem Frame.set {id : ContentId} {tree : Option (Tree Content)} (frame : Frame app base d) :
    Frame app base ((releaseSlot app id).set tree d) := by
  rw [releaseSlot_set]
  exact frame.edit

theorem Frame.of_same (frame : Frame app base before) (same : after.apps = before.apps)
    (journals : after.journals = before.journals) : Frame app base after :=
  ⟨fun other different => by rw [same]; exact frame.others other different,
    fun name different => by rw [journals]; exact frame.journals name different⟩

theorem Frame.erase (frame : Frame app base d) : Frame app base (eraseJournal app.value d) := by
  refine ⟨frame.others, ?_⟩
  intro name different
  rw [eraseJournal, AList.lookup_erase_ne different]
  exact frame.journals name different

theorem Frame.wellKept (frame : Frame app base d) (kept : WellKept base)
    (own : ∀ journal, d.journals.lookup app.value = some journal → Written app.value app journal) : WellKept d := by
  intro name journal found
  by_cases same : name = app.value
  · subst same
    exact ⟨app, own journal found⟩
  · rw [frame.journals name same] at found
    exact kept name journal found

theorem Underway.edit {f : AppFiles Content → AppFiles Content} (underway : Underway app bundle files journal d)
    (kept : ∀ files id, id ≠ bundle.contentId ∨ journal.targetPreexisted = true →
      (f files).releases.lookup id = files.releases.lookup id) :
    Underway app bundle files journal (d.edit app f) := by
  refine ⟨underway.found, underway.written, underway.records, ?_⟩
  intro id stays
  rw [edit_self, kept _ id stays]
  exact underway.releases id stays

theorem Underway.of_same (underway : Underway app bundle files journal before) (same : after.apps = before.apps)
    (journals : after.journals = before.journals) : Underway app bundle files journal after :=
  ⟨by rw [journals]; exact underway.found, underway.written, underway.records, by rw [same]; exact underway.releases⟩

theorem Landed.of_same (landed : Landed app bundle bundled before) (same : after.apps = before.apps)
    (journals : after.journals = before.journals) : Landed app bundle bundled after :=
  ⟨by rw [journals]; exact landed.idle, by rw [same]; exact landed.publishes⟩

theorem Landed.edit {change : AppFiles Content → AppFiles Content} (landed : Landed app bundle bundled d)
    (publishes : Publishes bundle bundled (change (d.apps app))) : Landed app bundle bundled (d.edit app change) :=
  ⟨landed.idle, by rw [edit_self]; exact publishes⟩

/-- Removing another release leaves the bundle published. -/
theorem Publishes.put {name : ContentId} (publishes : Publishes bundle bundled files) (other : bundle.contentId ≠ name)
    (tree : Option (Tree Content)) : Publishes bundle bundled { files with releases := putTree name tree files.releases } := by
  refine ⟨⟨publishes.manifest, publishes.current, publishes.state, ?_⟩, publishes.text, publishes.version, publishes.package⟩
  rw [lookup_putTree_ne other]
  exact publishes.release

/-- A stage is no part of an application. -/
theorem stageSlot_set (name : String) (tree : Option (Tree Content)) (disk : Disk Content) :
    (stageSlot name).set tree disk = { disk with staging := putTree name tree disk.staging } := rfl

theorem stageSlot_edit (name : String) (run : Tree Content → Tree Content) (disk : Disk Content) :
    ((stageSlot name).edit run disk).apps = disk.apps ∧ ((stageSlot name).edit run disk).journals = disk.journals := by
  unfold Slot.edit
  cases (stageSlot name).get disk with
  | none => exact ⟨rfl, rfl⟩
  | some tree => exact ⟨rfl, rfl⟩

/-- What depends on the applications and the journals alone outlives a stage. -/
theorem stage_wears {P : Disk Content → Prop} (name : String)
    (same : ∀ before after, P before → after.apps = before.apps → after.journals = before.journals → P after) :
    Wears (fun _ => P) (stageSlot name) where
  chmod _ d _ _ kept := same d _ kept (stageSlot_edit name _ d).1 (stageSlot_edit name _ d).2
  unlink _ d _ kept := same d _ kept (stageSlot_edit name _ d).1 (stageSlot_edit name _ d).2
  gone _ d kept := same d _ kept rfl rfl

/-- What outlives every change of one release outlives its removal. -/
theorem release_wears {name : ContentId} (idle : ∀ log d, inv log d → inv (log ++ [.release app name]) d)
    (put : ∀ log d tree, inv log d → inv (log ++ [.release app name]) ((releaseSlot app name).set tree d)) :
    Wears inv (releaseSlot app name) := by
  have edits : ∀ log d run, inv log d → inv (log ++ [.release app name]) ((releaseSlot app name).edit run d) := by
    intro log d run kept
    rcases releaseSlot_edit app name run d with same | ⟨tree, edited⟩
    · rw [same]
      exact idle log d kept
    · rw [edited]
      exact put log d _ kept
  exact ⟨fun log d _ _ kept => edits log d _ kept, fun log d _ kept => edits log d _ kept,
    fun log d kept => put log d none kept⟩

/-! ## The steps of an install -/

/-- Where an install that began on the disk may stand. -/
structure Amid (app : AppId) (bundle : BundleV1) (bundled : Content) (base d : Disk Content) : Prop where
  frame : Frame app base d
  midway : Midway app bundle bundled (base.apps app) d

/-- The existence of a path is always answered truly. -/
def Truthful (answer : Answer) : Prop := answer.hides = false

/-- The pointers of an application. -/
structure Pointers (Content : Type) where
  manifest : Option (Published Content)
  current : Option ContentId
  state : Option InstalledPackageStateV1

def AppFiles.pointers (files : AppFiles Content) : Pointers Content := ⟨files.manifest, files.current, files.state⟩

/-- The link names what the state names, if there is a state. -/
def Pointers.LinkNamed (pointers : Pointers Content) : Prop :=
  (pointers.state.map InstalledPackageStateV1.currentContentId).or pointers.current = pointers.current

theorem Agree.linkNamed (agree : Agree files) : files.pointers.LinkNamed := by
  unfold Pointers.LinkNamed AppFiles.pointers
  rcases agree with absent | ⟨id, describes⟩
  · rw [absent.state, absent.current]
    rfl
  · rw [describes.state, describes.current]
    rfl

theorem Amid.of_same (amid : Amid app bundle bundled base before) (same : after.apps = before.apps)
    (journals : after.journals = before.journals) : Amid app bundle bundled base after :=
  ⟨amid.frame.of_same same journals, amid.midway.of_same (by rw [same]) (by rw [journals])⟩

theorem amid_fails (allowed : Answer → Prop) :
    Fails allowed (fun _ (disk : Disk Content) => Amid app bundle bundled base disk) fun _ _ _ => True :=
  fun _ _ _ _ _ => trivial

theorem Midway.own (midway : Midway app bundle bundled files d) (found : d.journals.lookup app.value = some journal) :
    Underway app bundle files journal d := by
  cases midway with
  | untouched idle same => exact absurd (idle.symm.trans found) (by simp)
  | landed landed => exact absurd (landed.idle.symm.trans found) (by simp)
  | underway own underway =>
    cases underway.found.symm.trans found
    exact underway

theorem Amid.wellKept (amid : Amid app bundle bundled base d) (kept : WellKept base) : WellKept d :=
  amid.frame.wellKept kept fun _ found => (amid.midway.own found).written

theorem Amid.recovering (amid : Amid app bundle bundled base before) (kept : WellKept base)
    (found : before.journals.lookup app.value = some journal)
    (recovering : Mending app journal before after ∨ Mended app journal before after) : Amid app bundle bundled base after := by
  have written := (amid.midway.own found).written
  have recoverable := midway_recoverable app bundle bundled (base.apps app)
  have whole : WellKept before ∧ Midway app bundle bundled (base.apps app) before := ⟨amid.wellKept kept, amid.midway⟩
  rcases recovering with mending | mended
  · refine ⟨⟨?_, ?_⟩, (recoverable.mending before after app.value app journal whole found written mending).2⟩
    · intro other different
      rw [mending.beside.others other different]
      exact amid.frame.others other different
    · intro name different
      rw [mending.journals]
      exact amid.frame.journals name different
  · refine ⟨⟨?_, ?_⟩, (recoverable.mended before after app.value app journal whole found written mended).2⟩
    · intro other different
      rw [mended.beside.others other different]
      exact amid.frame.others other different
    · intro name different
      rw [mended.journals, AList.lookup_erase_ne different]
      exact amid.frame.journals name different

section
variable {allowed : Answer → Prop}

theorem keeps_recoverOwn (kept : WellKept base) (stands : Amid app bundle bundled base disk) :
    Keeps allowed (fun _ => Amid app bundle bundled base) (fun _ _ _ => True) (fun _ _ => Amid app bundle bundled base)
      (recoverJournal app.value) log disk := by
  cases found : disk.journals.lookup app.value with
  | none =>
    refine keeps_bind (keeps_look (Q := fun answer _ d => answer = none ∧ d = disk) (amid_fails allowed) stands
      ⟨found, rfl⟩) ?_
    rintro _ log _ _ ⟨rfl, rfl⟩
    exact keeps_throw stands trivial
  | some journal =>
    have recovering : ∀ d, Mending app journal disk d ∨ Mended app journal disk d → Amid app bundle bundled base d :=
      fun _ => stands.recovering kept found
    refine (keeps_recoverJournal (fun _ _ _ _ _ => trivial) found (stands.midway.own found).written
      (mending_refl app journal disk)).weaken (fun _ => recovering) (fun _ _ _ _ _ => trivial) ?_
    exact fun _ _ d _ mended => recovering d (.inr mended)

/-- An install that failed recovers from its journal, if there is one. -/
theorem keeps_orRecover {α : Type} {job : Transaction Content α} {post : α → List Place → Disk Content → Prop}
    (kept : WellKept base)
    (keeps : Keeps allowed (fun _ => Amid app bundle bundled base) (fun _ _ _ => True) post job log disk) :
    Keeps allowed (fun _ => Amid app bundle bundled base) (fun _ _ _ => True) post (orRecover app job) log disk := by
  refine keeps_bind (M := fun outcome log d => ∀ result, outcome = .ok result → post result log d) ?_ ?_
  · refine keeps_outcome (keeps.weaken (fun _ _ stands => stands) ?_ ?_)
    · intro error log d _ _ result same
      cases same
    · intro result log d _ ends other same
      cases same
      exact ends
  · intro outcome log disk stands ends
    cases outcome with
    | ok result => exact keeps_pure stands (ends result rfl)
    | error error =>
      refine keeps_bind (M := fun _ _ _ => True) (keeps_outcome ((keeps_recoverOwn kept stands).weaken
        (fun _ _ stands => stands) (fun _ _ _ _ _ => trivial) fun _ _ _ _ _ => trivial)) ?_
      intro _ log disk stands _
      exact keeps_throw stands trivial

theorem keeps_recoverFor_idle (idle : disk.journals.lookup app.value = none) (stands : inv log disk) :
    Keeps allowed inv fail (fun _ later d => later = log ∧ d = disk) (recoverFor app) log disk := by
  refine keeps_bind (keeps_glance (Q := fun found later d => found = none ∧ later = log ∧ d = disk) stands
    (fun _ => ⟨rfl, rfl, rfl⟩) ⟨idle, rfl, rfl⟩) ?_
  rintro _ _ _ _ ⟨rfl, rfl, rfl⟩
  exact keeps_pure stands ⟨rfl, rfl⟩

theorem keeps_ensureApplicationDirectories (fails : Fails allowed inv fail) {manifest : AppManifest}
    (refuses : ∀ path, fail (.unsafeDataPath path) log disk) (stands : inv log disk) :
    Keeps allowed inv fail (fun _ later d => later = log ∧ d = disk) (ensureApplicationDirectories manifest) log disk := by
  unfold ensureApplicationDirectories
  cases manifest.directories with
  | none => exact keeps_pure stands ⟨rfl, rfl⟩
  | some directories =>
    refine keeps_each (R := fun _ later d => later = log ∧ d = disk) ?_ ?_ ⟨rfl, rfl⟩
    · rintro _ _ _ ⟨rfl, rfl⟩
      exact stands
    · rintro path rest _ _ _ ⟨rfl, rfl⟩
      by_cases safe : allowedPath path = true
      · simp only [safe, Bool.not_true, Bool.false_eq_true, if_false]
        exact keeps_probe_bind fails (keeps_probe_bind fails (keeps_probe fails stands))
      · simp only [safe, Bool.not_false, if_true]
        exact keeps_throw stands (refuses path)

theorem keeps_prepareInstallPaths (fails : Fails allowed inv fail) {prepared : PreparedPackage Content}
    (refuses : ∀ path, fail (.unsafeDataPath path) log disk) (stands : inv log disk) :
    Keeps allowed inv fail (fun _ later d => later = log ∧ d = disk) (prepareInstallPaths app prepared) log disk := by
  refine keeps_probe_bind fails (keeps_probe_bind fails (keeps_probe_bind fails ?_))
  refine keeps_bind (keeps_ensureApplicationDirectories fails refuses stands) ?_
  rintro _ _ _ _ ⟨rfl, rfl⟩
  exact keeps_probe fails stands

/-- The journal of an install that begins where nothing has changed. -/
theorem keeps_beginInstall {prepared : PreparedPackage Content} {targetPreexisted : Bool}
    (truthful : ∀ answer, allowed answer → Truthful answer) (frame : Frame app base disk)
    (idle : disk.journals.lookup app.value = none) (same : disk.apps app = base.apps app)
    (named : (base.apps app).pointers.LinkNamed)
    (preexisted : targetPreexisted = ((base.apps app).releases.lookup prepared.bundle.contentId).isSome) :
    Keeps allowed (fun _ => Amid app prepared.bundle prepared.manifestBytes base) (fun _ _ _ => True)
      (fun previous _ d => previous = (base.apps app).current ∧ Frame app base d ∧ ∃ journal,
        Underway app prepared.bundle (base.apps app) journal d ∧ journal.targetPreexisted = targetPreexisted ∧
        d.apps = disk.apps ∧ d.staging = disk.staging)
      (beginInstall app prepared targetPreexisted) log disk := by
  have stands : Amid app prepared.bundle prepared.manifestBytes base disk :=
    ⟨frame, .untouched idle (by rw [same]; exact asBefore_refl _)⟩
  refine keeps_bind (keeps_look (Q := fun state _ d => state = (base.apps app).state ∧ d = disk) (amid_fails allowed)
    stands ⟨by rw [same], rfl⟩) ?_
  rintro _ log disk _ ⟨rfl, rfl⟩
  refine keeps_bind (keeps_glance (Q := fun current _ d =>
    ((base.apps app).state.map InstalledPackageStateV1.currentContentId).or current = (base.apps app).current ∧ d = disk)
    stands ?_ ⟨by rw [same]; exact named, rfl⟩) ?_
  · rintro ⟨answer, may, hides⟩
    exact absurd hides (ne_true_of_eq_false (truthful answer may))
  rintro current log disk _ ⟨previous, rfl⟩
  refine keeps_bind (keeps_look (Q := fun manifest _ d => manifest = (base.apps app).manifest ∧ d = disk)
    (amid_fails allowed) stands ⟨by rw [same], rfl⟩) ?_
  rintro _ log disk _ ⟨rfl, rfl⟩
  -- the journal that is written keeps what the reads found
  rw [previous]
  have begun : ∀ d : Disk Content, d = putJournal app.value
      ⟨1, app.value, prepared.bundle.contentId, targetPreexisted, (base.apps app).current, (base.apps app).manifest,
        (base.apps app).state⟩ disk →
      Frame app base d ∧ ∃ journal, Underway app prepared.bundle (base.apps app) journal d ∧
        journal.targetPreexisted = targetPreexisted ∧ d.apps = disk.apps ∧ d.staging = disk.staging := by
    rintro d rfl
    refine ⟨⟨frame.others, ?_⟩, _, ⟨AList.lookup_insert _, ⟨rfl, rfl, rfl⟩, ⟨rfl, preexisted, rfl, rfl, rfl⟩, ?_⟩, rfl,
      rfl, rfl⟩
    · intro name different
      rw [putJournal, AList.lookup_insert_ne different]
      exact frame.journals name different
    · intro id _
      show (disk.apps app).releases.lookup id = _
      rw [same]
  refine keeps_bind (keeps_atomicWrite (Q := fun _ _ d => Frame app base d ∧ ∃ journal,
    Underway app prepared.bundle (base.apps app) journal d ∧ journal.targetPreexisted = targetPreexisted ∧
      d.apps = disk.apps ∧ d.staging = disk.staging) (amid_fails allowed) stands ?_ (begun _ rfl)) ?_
  · obtain ⟨framed, journal, underway, -⟩ := begun _ rfl
    exact ⟨framed, .underway journal underway⟩
  · rintro _ log d stands ⟨framed, rest⟩
    exact keeps_pure stands ⟨rfl, framed, rest⟩

/-- From the first pointer to the removal of the journal, and what follows it. -/
theorem keeps_pointers {α : Type} {post : α → List Place → Disk Content → Prop} {next : Transaction Content α}
    {text : Published Content} {previous : Option ContentId} (frame : Frame app base disk)
    (underway : Underway app bundle (base.apps app) journal disk) (named : text = ⟨bundled, bundle.contentId⟩)
    (present : ((disk.apps app).releases.lookup bundle.contentId).isSome = true)
    (rest : ∀ log d, Frame app base d → Landed app bundle bundled d →
      Keeps allowed (fun _ => Amid app bundle bundled base) (fun _ _ _ => True) post next log d) :
    Keeps allowed (fun _ => Amid app bundle bundled base) (fun _ _ _ => True) post
      (do
        writeManifest app text
        atomicSymlink app bundle.contentId
        writeState app (nextState app bundle previous)
        changeWhen (.journal app.value) (fun disk => (disk.journals.lookup app.value).isSome) (eraseJournal app.value)
        next) log disk := by
  have manifest := underway.edit (f := fun files => { files with manifest := some text }) fun _ _ _ => rfl
  refine keeps_bind (M := fun _ _ d => d = setManifest app (some text) disk)
    (keeps_atomicWrite (amid_fails allowed) ⟨frame, .underway journal underway⟩ ⟨frame.edit, .underway journal manifest⟩
      rfl) ?_
  rintro _ log _ _ rfl
  have current := manifest.edit (f := fun files => { files with current := some bundle.contentId }) fun _ _ _ => rfl
  refine keeps_bind (M := fun _ _ d => d = setCurrent app (some bundle.contentId) (setManifest app (some text) disk))
    (keeps_atomicSymlink (amid_fails allowed) ⟨frame.edit, .underway journal manifest⟩
      ⟨frame.edit.edit, .underway journal current⟩ rfl) ?_
  rintro _ log _ _ rfl
  have state := current.edit (f := fun files => { files with state := some (nextState app bundle previous) })
    fun _ _ _ => rfl
  refine keeps_bind (M := fun _ _ d => d = setState app (some (nextState app bundle previous))
      (setCurrent app (some bundle.contentId) (setManifest app (some text) disk)))
    (keeps_atomicWrite (amid_fails allowed) ⟨frame.edit.edit, .underway journal current⟩
      ⟨frame.edit.edit.edit, .underway journal state⟩ rfl) ?_
  rintro _ log _ _ rfl
  -- removing the journal commits
  have framed : Frame app base (eraseJournal app.value (setState app (some (nextState app bundle previous))
      (setCurrent app (some bundle.contentId) (setManifest app (some text) disk)))) := frame.edit.edit.edit.erase
  have landed : Landed app bundle bundled (eraseJournal app.value (setState app (some (nextState app bundle previous))
      (setCurrent app (some bundle.contentId) (setManifest app (some text) disk)))) := by
    refine ⟨AList.lookup_erase _ _, ⟨?_, ?_, ?_, ?_⟩, ?_, ?_, ?_⟩ <;>
      simp [eraseJournal, setState, setCurrent, setManifest, edit_self, nextState, named, present]
  refine keeps_bind (M := fun _ _ d => Frame app base d ∧ Landed app bundle bundled d)
    (keeps_changeWhen (amid_fails allowed) ⟨frame.edit.edit.edit, .underway journal state⟩ (fun _ => trivial)
      (fun _ => ⟨framed, .landed landed⟩) fun _ => ⟨framed, landed⟩) ?_
  rintro _ log d _ ⟨framed, landed⟩
  exact rest log d framed landed

/-- Once the bundle is installed, what is pruned is neither its release nor a pointer to it. -/
theorem keeps_removeStaleReleases {state : InstalledPackageStateV1} (named : state.currentContentId = bundle.contentId)
    (frame : Frame app base disk) (landed : Landed app bundle bundled disk) :
    Keeps allowed (fun _ => Amid app bundle bundled base) (fun _ _ _ => True)
      (fun _ _ d => Frame app base d ∧ Landed app bundle bundled d) (removeStaleReleases app state) log disk := by
  have amid : ∀ d, Frame app base d ∧ Landed app bundle bundled d → Amid app bundle bundled base d :=
    fun d ⟨frame, landed⟩ => ⟨frame, .landed landed⟩
  refine keeps_bind (keeps_readDir (Q := fun _ _ d => Frame app base d ∧ Landed app bundle bundled d) (amid_fails allowed)
    (amid disk ⟨frame, landed⟩) fun _ _ => ⟨frame, landed⟩) ?_
  rintro names log disk _ ⟨frame, landed⟩
  refine keeps_each (R := fun _ _ d => Frame app base d ∧ Landed app bundle bundled d) (fun _ _ d => amid d) ?_
    ⟨frame, landed⟩
  rintro name rest log disk _ ⟨frame, landed⟩
  by_cases keep : name = state.currentContentId ∨ some name = state.previousContentId
  · simp only [keep, if_true]
    exact keeps_pure (amid disk ⟨frame, landed⟩) ⟨frame, landed⟩
  · simp only [keep, if_false]
    have other : bundle.contentId ≠ name := fun same => keep (.inl (by rw [named, same]))
    have wears : Wears (fun _ d => Frame app base d ∧ Landed app bundle bundled d) (releaseSlot app name) := by
      refine release_wears (fun _ _ kept => kept) ?_
      rintro _ d tree ⟨frame, landed⟩
      rw [releaseSlot_set]
      exact ⟨frame.edit, landed.edit (landed.publishes.put other tree)⟩
    exact (keeps_removeTree (fun _ _ _ _ _ => trivial) wears (releaseSlot_lawful app name) ⟨frame, landed⟩).weaken
      (fun _ d => amid d) (fun _ _ _ _ failed => failed) fun _ _ _ _ kept => kept.1

/-- A stage may go at any time. -/
theorem keeps_removeStage {P : Disk Content → Prop} (name : String)
    (same : ∀ before after, P before → after.apps = before.apps → after.journals = before.journals → P after)
    (fails : Fails allowed (fun _ => P) fail) (stands : P disk) :
    Keeps allowed (fun _ => P) fail (fun _ _ => P) (removeTree (stageSlot name)) log disk :=
  (keeps_removeTree fails (stage_wears name same) (stageSlot_lawful name) stands).weaken (fun _ _ kept => kept)
    (fun _ _ _ _ failed => failed) fun _ _ _ _ kept => kept.1

/-! ## The install -/

variable (formats : Formats Content) {prepared : PreparedPackage Content}

theorem materialize_eq {text : Published Content} {contentId : ContentId}
    (ok : materializeManifestBytes formats bundled app contentId = .ok text) : text = ⟨bundled, contentId⟩ := by
  unfold materializeManifestBytes at ok
  split at ok
  · cases ok
  · split at ok
    · cases ok
    · split at ok
      · cases ok
      · cases ok
        rfl

theorem keeps_publishExistingInstall {previous : Option ContentId} (frame : Frame app base disk)
    (underway : Underway app prepared.bundle (base.apps app) journal disk)
    (present : ((disk.apps app).releases.lookup prepared.bundle.contentId).isSome = true) :
    Keeps allowed (fun _ => Amid app prepared.bundle prepared.manifestBytes base) (fun _ _ _ => True) (fun _ _ _ => True)
      (publishExistingInstall formats app prepared previous) log disk := by
  have stands : Amid app prepared.bundle prepared.manifestBytes base disk := ⟨frame, .underway journal underway⟩
  refine keeps_bind (keeps_checked (Q := fun text _ d =>
    text = ⟨prepared.manifestBytes, prepared.bundle.contentId⟩ ∧ d = disk) stands (fun _ _ => trivial)
    fun _ ok => ⟨materialize_eq formats ok, rfl⟩) ?_
  rintro text log disk _ ⟨named, rfl⟩
  refine keeps_pointers frame underway named present ?_
  intro log d frame landed
  refine keeps_bind (M := fun _ _ d => Frame app base d ∧ Landed app prepared.bundle prepared.manifestBytes d)
    ((keeps_removeStage prepared.stageRoot
      (P := fun d => Frame app base d ∧ Landed app prepared.bundle prepared.manifestBytes d) ?_
      (fun _ _ _ _ _ => trivial) ⟨frame, landed⟩).weaken (fun _ _ kept => ⟨kept.1, .landed kept.2⟩)
      (fun _ _ _ _ failed => failed) fun _ _ _ _ kept => kept) ?_
  · rintro before after ⟨frame, landed⟩ same journals
    exact ⟨frame.of_same same journals, landed.of_same same journals⟩
  rintro _ log d _ ⟨frame, landed⟩
  refine keeps_bind (keeps_removeStaleReleases rfl frame landed) ?_
  rintro _ log d amid _
  exact keeps_pure amid trivial

/-- The target that the install brings is there, and the install is under way. -/
structure Brought (app : AppId) (bundle : BundleV1) (base : Disk Content) (journal : TransactionJournalV1 Content)
    (d : Disk Content) : Prop where
  frame : Frame app base d
  underway : Underway app bundle (base.apps app) journal d
  present : ((d.apps app).releases.lookup bundle.contentId).isSome = true

theorem Underway.set {tree : Option (Tree Content)} (underway : Underway app bundle files journal d)
    (brought : journal.targetPreexisted = false) :
    Underway app bundle files journal ((releaseSlot app bundle.contentId).set tree d) := by
  rw [releaseSlot_set]
  refine underway.edit ?_
  intro files id stays
  exact lookup_putTree_ne (stays.resolve_right (by simp [brought])) tree files.releases

theorem Brought.chmods (brought : journal.targetPreexisted = false) :
    Chmods (fun _ => Brought app bundle base journal) (releaseSlot app bundle.contentId) := by
  intro _ d mode path stands
  rcases releaseSlot_edit app bundle.contentId (fun tree => Tree.chmod tree mode path) d with same | ⟨tree, edited⟩
  · rw [same]
    exact stands
  · rw [edited]
    refine ⟨stands.frame.set, stands.underway.set brought, ?_⟩
    simp [releaseSlot_set, edit_self, putTree]

theorem keeps_publishInstall {previous : Option ContentId} (frame : Frame app base disk)
    (underway : Underway app prepared.bundle (base.apps app) journal disk) (brought : journal.targetPreexisted = false) :
    Keeps allowed (fun _ => Amid app prepared.bundle prepared.manifestBytes base) (fun _ _ _ => True) (fun _ _ _ => True)
      (publishInstall formats app prepared previous) log disk := by
  have stands : Amid app prepared.bundle prepared.manifestBytes base disk := ⟨frame, .underway journal underway⟩
  refine keeps_bind (keeps_checked (Q := fun text _ d =>
    text = ⟨prepared.manifestBytes, prepared.bundle.contentId⟩ ∧ d = disk) stands (fun _ _ => trivial)
    fun _ ok => ⟨materialize_eq formats ok, rfl⟩) ?_
  rintro text log disk _ ⟨named, rfl⟩
  have amid : ∀ d, Brought app prepared.bundle base journal d → Amid app prepared.bundle prepared.manifestBytes base d :=
    fun d stands => ⟨stands.frame, .underway journal stands.underway⟩
  have moved : disk.staging.lookup prepared.stageRoot ≠ none →
      Brought app prepared.bundle base journal ((stageSlot prepared.stageRoot).set none
        ((releaseSlot app prepared.bundle.contentId).set (disk.staging.lookup prepared.stageRoot) disk)) := by
    intro there
    obtain ⟨tree, staged⟩ := Option.ne_none_iff_exists'.mp there
    rw [staged]
    refine ⟨frame.set.of_same rfl rfl, (underway.set brought).of_same rfl rfl, ?_⟩
    simp [stageSlot_set, releaseSlot_set, edit_self, putTree]
  refine keeps_bind (M := fun _ _ => Brought app prepared.bundle base journal)
    (keeps_changeWhen (amid_fails allowed) stands (fun _ => trivial) (fun fit => amid _ (moved ?_))
      fun fit => moved ?_) ?_
  · intro gone
    simp [gone] at fit
  · intro gone
    simp [gone] at fit
  rintro _ log d _ stands
  refine keeps_bind (M := fun _ _ => Brought app prepared.bundle base journal)
    ((keeps_makeReadOnly (fun _ _ _ _ _ => trivial) (Brought.chmods brought) stands).weaken (fun _ d => amid d)
      (fun _ _ _ _ failed => failed) fun _ _ _ _ kept => kept) ?_
  rintro _ log d _ stands
  refine keeps_pointers stands.frame stands.underway named stands.present ?_
  intro log d frame landed
  refine keeps_bind (keeps_removeStaleReleases rfl frame landed) ?_
  rintro _ log d amid _
  exact keeps_pure amid trivial

theorem keeps_readState (fails : Fails allowed inv fail) (wrong : ∀ error, fail error log disk) (stands : inv log disk) :
    Keeps allowed inv fail (fun state later d => (disk.apps app).state = some state ∧ later = log ∧ d = disk)
      (readState app) log disk := by
  refine keeps_bind (keeps_look (Q := fun found later d => found = (disk.apps app).state ∧ later = log ∧ d = disk)
    fails stands ⟨rfl, rfl, rfl⟩) ?_
  rintro found _ _ _ ⟨read, rfl, rfl⟩
  cases found with
  | none => exact keeps_throw stands (wrong _)
  | some state =>
    by_cases mismatch : (decide (state.schema ≠ 1) || decide (state.appId ≠ app.value)) = true
    · simp only [mismatch, if_true]
      exact keeps_throw stands (wrong _)
    · simp only [mismatch]
      exact keeps_pure stands ⟨read.symm, rfl, rfl⟩

theorem keeps_finishExistingInstall (kept : WellKept base) (truthful : ∀ answer, allowed answer → Truthful answer)
    (frame : Frame app base disk) (idle : disk.journals.lookup app.value = none) (same : disk.apps app = base.apps app)
    (named : (base.apps app).pointers.LinkNamed)
    (present : ((base.apps app).releases.lookup prepared.bundle.contentId).isSome = true) :
    Keeps allowed (fun _ => Amid app prepared.bundle prepared.manifestBytes base) (fun _ _ _ => True) (fun _ _ _ => True)
      (finishExistingInstall formats app prepared) log disk := by
  have stands : Amid app prepared.bundle prepared.manifestBytes base disk :=
    ⟨frame, .untouched idle (by rw [same]; exact asBefore_refl _)⟩
  refine keeps_bind (keeps_readState (amid_fails allowed) (fun _ => trivial) stands) ?_
  rintro state log disk _ ⟨found, -, rfl⟩
  refine keeps_bind (keeps_glance (Q := fun current _ d => current = (disk.apps app).current ∧ d = disk) stands ?_
    ⟨rfl, rfl⟩) ?_
  · rintro ⟨answer, may, hides⟩
    exact absurd hides (ne_true_of_eq_false (truthful answer may))
  rintro _ log disk _ ⟨rfl, rfl⟩
  by_cases isCurrent : isCurrent prepared.bundle state (disk.apps app).current = true
  · simp only [isCurrent, if_true]
    simp only [Package.isCurrent, decide_eq_true_eq] at isCurrent
    obtain ⟨published, version, package, current⟩ := isCurrent
    refine keeps_bind (keeps_checked (Q := fun text _ d =>
      text = ⟨prepared.manifestBytes, prepared.bundle.contentId⟩ ∧ d = disk) stands (fun _ _ => trivial)
      fun _ ok => ⟨materialize_eq formats ok, rfl⟩) ?_
    rintro text log disk _ ⟨release, rfl⟩
    have landed : Landed app prepared.bundle prepared.manifestBytes (setManifest app (some text) disk) := by
      refine ⟨idle, ⟨?_, ?_, ?_, ?_⟩, ?_, ?_, ?_⟩ <;>
        simp [setManifest, edit_self, found, published, version, package, current, release]
      rw [same]
      exact present
    refine keeps_bind (M := fun _ _ => Amid app prepared.bundle prepared.manifestBytes base)
      (keeps_atomicWrite (amid_fails allowed) stands ⟨frame.edit, .landed landed⟩ ⟨frame.edit, .landed landed⟩) ?_
    rintro _ log d _ stands
    refine keeps_bind (keeps_removeStage prepared.stageRoot (fun _ _ amid => amid.of_same) (amid_fails allowed) stands) ?_
    rintro _ log d _ stands
    exact keeps_pure stands trivial
  · simp only [isCurrent]
    refine keeps_bind (keeps_look (Q := fun _ _ d => d = disk) (amid_fails allowed) stands rfl) ?_
    rintro release log disk _ rfl
    refine keeps_bind (keeps_look (Q := fun _ _ d => d = disk) (amid_fails allowed) stands rfl) ?_
    rintro stage log disk _ rfl
    refine keeps_bind (keeps_checked (Q := fun _ _ d => d = disk) stands (fun _ _ => trivial) fun _ _ => rfl) ?_
    rintro _ log disk _ rfl
    refine keeps_bind (keeps_beginInstall truthful frame idle same named (by rw [present])) ?_
    rintro previous log d _ ⟨-, frame, journal, underway, -, apps, -⟩
    refine keeps_orRecover kept (keeps_publishExistingInstall formats frame underway ?_)
    rw [apps, same]
    exact present

/-- What an install does once no journal of the application is pending. -/
theorem keeps_installRecovered (kept : WellKept disk) (truthful : ∀ answer, allowed answer → Truthful answer)
    (idle : disk.journals.lookup app.value = none) (named : (disk.apps app).pointers.LinkNamed) :
    Keeps allowed (fun _ => Amid app prepared.bundle prepared.manifestBytes disk) (fun _ _ _ => True) (fun _ _ _ => True)
      (do
        prepareInstallPaths app prepared
        if (← glance (releaseSlot app prepared.bundle.contentId).get).isSome then
          finishExistingInstall formats app prepared
        else
          let previousContentId ← beginInstall app prepared false
          orRecover app (publishInstall formats app prepared previousContentId)) log disk := by
  have stands : Amid app prepared.bundle prepared.manifestBytes disk disk := ⟨frame_refl _ _, .untouched idle (asBefore_refl _)⟩
  refine keeps_bind (keeps_prepareInstallPaths (amid_fails allowed) (fun _ => trivial) stands) ?_
  rintro _ log disk _ ⟨-, rfl⟩
  refine keeps_bind (keeps_glance (Q := fun found _ d =>
    found = (disk.apps app).releases.lookup prepared.bundle.contentId ∧ d = disk) stands ?_ ⟨rfl, rfl⟩) ?_
  · rintro ⟨answer, may, hides⟩
    exact absurd hides (ne_true_of_eq_false (truthful answer may))
  rintro _ log disk _ ⟨rfl, rfl⟩
  cases there : (disk.apps app).releases.lookup prepared.bundle.contentId with
  | some tree =>
    simp only [Option.isSome_some, if_true]
    exact keeps_finishExistingInstall formats kept truthful (frame_refl _ _) idle rfl named (by rw [there]; rfl)
  | none =>
    simp only [Option.isSome_none, Bool.false_eq_true, if_false]
    refine keeps_bind (keeps_beginInstall truthful (frame_refl _ _) idle rfl named (by rw [there]; rfl)) ?_
    rintro previous log d _ ⟨-, frame, journal, underway, brought, -, -⟩
    exact keeps_orRecover kept (keeps_publishInstall formats frame underway brought)

theorem keeps_installStaged (kept : WellKept disk) (truthful : ∀ answer, allowed answer → Truthful answer)
    (idle : disk.journals.lookup prepared.manifest.id.value = none)
    (named : (disk.apps prepared.manifest.id).pointers.LinkNamed) :
    Keeps allowed (fun _ => Amid prepared.manifest.id prepared.bundle prepared.manifestBytes disk) (fun _ _ _ => True)
      (fun _ _ _ => True)
      (installStaged formats prepared) log disk := by
  have stands : Amid prepared.manifest.id prepared.bundle prepared.manifestBytes disk disk :=
    ⟨frame_refl _ _, .untouched idle (asBefore_refl _)⟩
  refine keeps_bind (keeps_recoverFor_idle idle stands) ?_
  rintro _ log disk _ ⟨-, rfl⟩
  exact keeps_installRecovered formats kept truthful idle named

/-- At every point of an install, and at its end, the application stands amid it. -/
theorem keeps_install (kept : WellKept disk) (truthful : ∀ answer, allowed answer → Truthful answer)
    (idle : disk.journals.lookup prepared.manifest.id.value = none)
    (named : (disk.apps prepared.manifest.id).pointers.LinkNamed) :
    Keeps allowed (fun _ => Amid prepared.manifest.id prepared.bundle prepared.manifestBytes disk) (fun _ _ _ => True)
      (fun _ _ _ => True)
      (install formats prepared) log disk := by
  refine keeps_bind (M := fun _ _ _ => True)
    (keeps_outcome (keeps_installStaged formats kept truthful idle named)) ?_
  rintro outcome log d stands _
  refine keeps_bind (M := fun _ _ _ => True) (keeps_outcome ((keeps_removeStage prepared.stageRoot
    (fun _ _ amid => amid.of_same) (amid_fails allowed) stands).weaken (fun _ _ kept => kept)
    (fun _ _ _ _ _ => trivial) fun _ _ _ _ _ => trivial)) ?_
  rintro _ log d stands _
  exact keeps_checked stands (fun _ _ => trivial) fun _ _ => trivial

end

/-! ## All or nothing -/

/-- An application at rest: no journal is pending, and its pointers agree. -/
structure Prior (app : AppId) (disk : Disk Content) : Prop where
  journals : WellKept disk
  idle : disk.journals.lookup app.value = none
  agree : Agree (disk.apps app)

theorem lookup_of_keys_nil {name : String} (idle : disk.journals.keys = []) : disk.journals.lookup name = none := by
  rw [AList.lookup_eq_none, AList.mem_keys, idle]
  exact List.not_mem_nil

/-- Where nothing is pending, an install has changed nothing or published its bundle. -/
theorem Midway.settled (midway : Midway app bundle bundled files d) (idle : d.journals.keys = []) :
    AsBefore files (d.apps app) ∨ Publishes bundle bundled (d.apps app) := by
  cases midway with
  | untouched _ same => exact .inl same
  | landed landed => exact .inr landed.publishes
  | underway journal underway => exact absurd ((lookup_of_keys_nil idle).symm.trans underway.found) (by simp)

/-- A release that was not there before is there exactly in the new state. -/
theorem target_gone_iff {later : AppFiles Content}
    (settled : AsBefore files later ∨ Publishes bundle bundled later) :
    later.releases.lookup bundle.contentId = none ↔
      AsBefore files later ∧ files.releases.lookup bundle.contentId = none := by
  constructor
  · intro gone
    rcases settled with same | publishes
    · exact ⟨same, by rw [← same.releases]; exact gone⟩
    · exact absurd publishes.release (by simp [gone])
  · rintro ⟨same, absent⟩
    rw [same.releases]
    exact absent

/-- Stop an install at any of its steps, stop any number of recoveries after it, and let
    one finish: the application is all as it was or all the bundle's, and recovering again
    changes nothing. Calls may also fail, except those that only ask what is there. -/
theorem install_crash_atomic (formats : Formats Content) (prepared : PreparedPackage Content)
    (prior : Prior prepared.manifest.id disk) (answers : List Answer) (truthful : ∀ answer ∈ answers, Truthful answer)
    {stopped : Disk Content} (reruns : Rerun ((install formats prepared).trace answers disk).state stopped) :
    (∀ calm, (∀ answer ∈ calm, answer.fails = false) → ∀ outcome,
      (recoverAll.trace calm stopped).result = some outcome → outcome = .ok ()) ∧
    ∀ last, (recoverAll.trace last stopped).result = some (.ok ()) →
      let before := disk.apps prepared.manifest.id
      let recovered := (recoverAll.trace last stopped).state
      let after := recovered.apps prepared.manifest.id
      (AsBefore before after ∨ Publishes prepared.bundle prepared.manifestBytes after) ∧
      (after.releases.lookup prepared.bundle.contentId = none ↔
        AsBefore before after ∧ before.releases.lookup prepared.bundle.contentId = none) ∧
      ∀ again, (recoverAll.trace again recovered).state = recovered := by
  have keeps : Keeps Truthful _ _ _ _ [] disk :=
    keeps_install formats prior.journals (fun _ => id) prior.idle prior.agree.linkNamed
  have amid := keeps.stands truthful
  have recoverable := midway_recoverable prepared.manifest.id prepared.bundle prepared.manifestBytes
    (disk.apps prepared.manifest.id)
  have stands := reruns.kept recoverable ⟨amid.wellKept prior.journals, amid.midway⟩
  refine ⟨fun calm told outcome finished => recoverAll_succeeds recoverable stands told finished, ?_⟩
  intro last finished
  obtain ⟨⟨-, midway⟩, idle⟩ := recoverAll_done recoverable stands finished
  have settled := midway.settled idle
  exact ⟨settled, target_gone_iff settled, recoverAll_idle idle⟩

/-! ## A bundle of one script -/

def sketchpad : AppId := ⟨"sketchpad", by decide⟩

def sketchpadBundle : BundleV1 where
  appId := "sketchpad"
  package := "sketchpad"
  version := "1"
  contentId := "69585ef140f22a0c569122ebf1611b1a26af9a28f6836aeb850cf541699994a9"
  payloadSha256 := "67c603f16bfd10788502a1cc41eb3f4d40f2529675db899aeb1fa07b8a14853a"
  files :=
    [⟨"manifest.toml", "4240f6c9a77e3919679f1c3f5c484674fe73bdeffeb8ca649d7369c33af3be0d", 177, "0644"⟩,
      ⟨"payload/run", "a8076d3d28d21e02012b20eaf7dbf75409a6277134439025f282e368e3305abf", 10, "0755"⟩]

def sketchpadManifest : AppManifest where
  id := sketchpad
  version := "1"
  package := some "sketchpad"
  exec := ["home", "root", "apps", "sketchpad", "current", "payload", "run"]
  workingDir := ["home", "root", "apps", "sketchpad", "current"]

/-- The bundle's three files by number: its description, its manifest and its script. -/
def sketchpadFormats : Formats Nat where
  size n := if n = 0 then 554 else if n = 1 then 177 else 10
  sha256 n :=
    if n = 0 then "64818cf701c87d1735f01b9178e588ef17c8e69d4b09de40f3fd53558dab7d83"
    else if n = 1 then "4240f6c9a77e3919679f1c3f5c484674fe73bdeffeb8ca649d7369c33af3be0d"
    else "a8076d3d28d21e02012b20eaf7dbf75409a6277134439025f282e368e3305abf"
  digest text :=
    if text = canonical ⟨"payload/run", "a8076d3d28d21e02012b20eaf7dbf75409a6277134439025f282e368e3305abf", 10, "0755"⟩ 0o755
    then sketchpadBundle.payloadSha256
    else sketchpadBundle.contentId
  bundle n := if n = 0 then .ok sketchpadBundle else .error "expected value at line 1 column 1"
  manifest n := if n = 1 then .ok sketchpadManifest else .error "expected a key"
  materialized n _ release :=
    if n = 1 then .ok { sketchpadManifest with
      exec := ["home", "root", "apps", "sketchpad", "releases", release, "payload", "run"]
      workingDir := ["home", "root", "apps", "sketchpad", "releases", release] }
    else .error "expected a key"

def sketchpadArchive : List (ArchiveEntry Nat) :=
  [⟨"bundle.json", .file, 0o644, 0⟩, ⟨"manifest.toml", .file, 0o644, 1⟩, ⟨"payload/run", .file, 0o755, 2⟩]

def sketchpadPackage : PreparedPackage Nat := ⟨sketchpadBundle, sketchpadManifest, 1, "stage"⟩

def sketchpadStaged : Disk Nat :=
  { staging := AList.singleton "stage" ((AList.singleton "bundle.json" (⟨0, 0o644⟩ : File Nat)).insert "manifest.toml"
      ⟨1, 0o644⟩ |>.insert "payload/run" ⟨2, 0o755⟩) }

/-- A first install that stops once its manifest is published leaves nothing behind. -/
theorem install_crash_atomic_manifest :
    let stopped := ((install sketchpadFormats sketchpadPackage).trace (List.replicate 28 {}) sketchpadStaged).state
    let recovered := (recoverAll.trace (List.replicate 40 {}) stopped).state
    (stopped.apps sketchpad).manifest.isSome = true ∧
      (AsBefore (sketchpadStaged.apps sketchpad) (recovered.apps sketchpad) ∨
        Publishes sketchpadPackage.bundle sketchpadPackage.manifestBytes (recovered.apps sketchpad)) := by
  refine ⟨rfl, ?_⟩
  have prior : Prior sketchpadPackage.manifest.id sketchpadStaged := by
    refine ⟨?_, rfl, .inl ⟨rfl, rfl, rfl⟩⟩
    intro name journal found
    exact absurd found (by simp [sketchpadStaged])
  have truthful : ∀ answer ∈ List.replicate 28 ({} : Answer), Truthful answer := by
    intro answer told
    rw [List.eq_of_mem_replicate told]
    rfl
  exact ((install_crash_atomic sketchpadFormats sketchpadPackage prior _ truthful .none).2 (List.replicate 40 {}) rfl).1

end Remagic.Package
