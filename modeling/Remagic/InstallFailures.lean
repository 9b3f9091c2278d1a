import Remagic.PackageRuns
import Remagic.TaskParts

/-!
# Installs that fail

An install that fails recovers from its journal. Unless the bundle was published by then,
this leaves exactly the pointers that there were, if no call of the recovery fails. Where
one does, the journal stays pending, and a later recovery goes back to these pointers.
-/

namespace Remagic.Package
open Tasks Job

variable {Content : Type} {app : AppId} {bundle : BundleV1} {bundled : Content} {back : Pointers Content}
  {base d disk before after : Disk Content} {log : List Place} {journal : TransactionJournalV1 Content}

def TransactionJournalV1.pointers (journal : TransactionJournalV1 Content) : Pointers Content :=
  ⟨journal.previousManifest, journal.previousContentId, journal.previousState⟩

/-- The pointers that the application has, or that its pending journal goes back to. -/
def Disk.goesBack (app : AppId) (disk : Disk Content) : Pointers Content :=
  match disk.journals.lookup app.value with
  | some journal => journal.pointers
  | none => (disk.apps app).pointers

theorem goesBack_idle (idle : disk.journals.lookup app.value = none) : disk.goesBack app = (disk.apps app).pointers := by
  rw [Disk.goesBack, idle]

theorem goesBack_pending (found : disk.journals.lookup app.value = some journal) :
    disk.goesBack app = journal.pointers := by
  rw [Disk.goesBack, found]

theorem goesBack_of_same (same : after.apps app = before.apps app)
    (journals : after.journals.lookup app.value = before.journals.lookup app.value) :
    after.goesBack app = before.goesBack app := by
  unfold Disk.goesBack
  rw [journals, same]

/-- Recovery finishes where its journal goes back to. -/
theorem Mended.goesBack (mended : Mended app journal before after)
    (found : before.journals.lookup app.value = some journal) : after.goesBack app = before.goesBack app := by
  have idle : after.journals.lookup app.value = none := by
    rw [mended.journals]
    exact AList.lookup_erase _ _
  rw [goesBack_idle idle, goesBack_pending found, AppFiles.pointers, mended.restored.manifest, mended.restored.current,
    mended.restored.state]
  rfl

theorem Mending.goesBack (mending : Mending app journal before after)
    (found : before.journals.lookup app.value = some journal) : after.goesBack app = before.goesBack app := by
  have found' : after.journals.lookup app.value = some journal := by rw [mending.journals, found]
  rw [goesBack_pending found', goesBack_pending found]

/-- No recovery changes where the application goes back to. -/
theorem goesBack_recoverable (app : AppId) (back : Pointers Content) :
    Recoverable fun d : Disk Content => WellKept d ∧ d.goesBack app = back where
  written disk name journal kept found := kept.1 name journal found
  mending := by
    rintro before after name other journal ⟨kept, rfl⟩ found written mending
    refine ⟨wellKept_of_journals kept mending.journals, ?_⟩
    by_cases same : app = other
    · subst same
      exact mending.goesBack (written.named ▸ found)
    · exact goesBack_of_same (mending.beside.others app same) (by rw [mending.journals])
  mended := by
    rintro before after name other journal ⟨kept, rfl⟩ found written mended
    refine ⟨wellKept_of_erase kept mended.journals, ?_⟩
    by_cases same : app = other
    · subst same
      exact mended.goesBack (written.named ▸ found)
    · refine goesBack_of_same (mended.beside.others app same) ?_
      have different : app.value ≠ other.value := fun values => same (written_app written (values.trans written.named))
      rw [mended.journals, AList.lookup_erase_ne different]

/-- The application still goes back to its pointers, or the bundle is published. -/
structure Held (app : AppId) (bundle : BundleV1) (bundled : Content) (back : Pointers Content) (d : Disk Content) : Prop where
  kept : WellKept d
  held : d.goesBack app = back ∨ Landed app bundle bundled d

theorem Held.of_same (held : Held app bundle bundled back before) (same : after.apps = before.apps)
    (journals : after.journals = before.journals) : Held app bundle bundled back after := by
  refine ⟨wellKept_of_journals held.kept journals, ?_⟩
  rcases held.held with kept | landed
  · exact .inl ((goesBack_of_same (by rw [same]) (by rw [journals])).trans kept)
  · exact .inr (landed.of_same same (by rw [journals]))

theorem Amid.held (amid : Amid app bundle bundled base d) (kept : WellKept base) :
    Held app bundle bundled (base.apps app).pointers d := by
  refine ⟨amid.wellKept kept, ?_⟩
  cases amid.midway with
  | untouched idle same =>
    refine .inl ?_
    rw [goesBack_idle idle, AppFiles.pointers, same.manifest, same.current, same.state]
    rfl
  | underway journal underway =>
    refine .inl ?_
    have records := underway.records
    rw [goesBack_pending underway.found, TransactionJournalV1.pointers, records.manifest, records.current, records.state]
    rfl
  | landed landed => exact .inr landed

section
variable {allowed : Answer → Prop}

/-- Where the existence of a journal is answered truly, what an install begins with clears it. -/
theorem keeps_recoverFor_clears {P : Disk Content → Prop} (recoverable : Recoverable P)
    (truthful : ∀ answer, allowed answer → Truthful answer) (app : AppId) (stands : P disk) :
    Keeps allowed (fun _ => P) (fun _ _ _ => True) (fun _ _ d => d.journals.lookup app.value = none) (recoverFor app)
      log disk := by
  cases found : disk.journals.lookup app.value with
  | none =>
    have still : Keeps allowed (fun _ => P) (fun _ _ _ => True) (fun _ later d => later = log ∧ d = disk) (recoverFor app)
      log disk := keeps_recoverFor_idle found stands
    refine still.weaken (fun _ _ stands => stands) (fun _ _ _ _ _ => trivial) ?_
    rintro _ _ _ _ ⟨-, rfl⟩
    exact found
  | some journal =>
    refine keeps_bind (keeps_glance (Q := fun answer _ d => answer = some journal ∧ d = disk) stands ?_
      ⟨found, rfl⟩) ?_
    · rintro ⟨answer, may, hides⟩
      exact absurd hides (ne_true_of_eq_false (truthful answer may))
    rintro _ log d stands ⟨rfl, same⟩
    subst same
    refine (keeps_recoverJournal_of recoverable (fun _ _ _ _ _ => trivial) stands found).weaken (fun _ _ kept => kept)
      (fun _ _ _ _ _ => trivial) ?_
    rintro _ _ d _ ⟨-, erased⟩
    rw [erased]
    exact AList.lookup_erase _ _

/-- At every point of an install the application still goes back to its pointers, or the bundle
    is published. -/
theorem keeps_install_held (formats : Formats Content) (prepared : PreparedPackage Content) (kept : WellKept disk)
    (truthful : ∀ answer, allowed answer → Truthful answer)
    (named : (disk.goesBack prepared.manifest.id).LinkNamed) :
    Keeps allowed (fun _ => Held prepared.manifest.id prepared.bundle prepared.manifestBytes
      (disk.goesBack prepared.manifest.id)) (fun _ _ _ => True) (fun _ _ _ => True) (install formats prepared) log disk := by
  have staged : Keeps allowed (fun _ => Held prepared.manifest.id prepared.bundle prepared.manifestBytes
      (disk.goesBack prepared.manifest.id)) (fun _ _ _ => True) (fun _ _ _ => True) (installStaged formats prepared)
      log disk := by
    refine keeps_bind (M := fun _ _ d => (WellKept d ∧ d.goesBack prepared.manifest.id = disk.goesBack prepared.manifest.id) ∧
      d.journals.lookup prepared.manifest.id.value = none)
      ((keeps_recoverFor_clears (goesBack_recoverable _ _) truthful _ ⟨kept, rfl⟩).weaken
        (fun _ _ stands => ⟨stands.1, .inl stands.2⟩) (fun _ _ _ _ failed => failed)
        fun _ _ _ stands idle => ⟨stands, idle⟩) ?_
    rintro _ log d _ ⟨⟨kept, same⟩, idle⟩
    rw [goesBack_idle idle] at same
    rw [← same] at named ⊢
    exact (keeps_installRecovered formats kept truthful idle named).weaken (fun _ _ amid => amid.held kept)
      (fun _ _ _ _ failed => failed) fun _ _ _ _ ends => ends
  refine keeps_bind (M := fun _ _ _ => True) (keeps_outcome staged) ?_
  rintro outcome log d stands _
  refine keeps_bind (M := fun _ _ _ => True) (keeps_outcome ((keeps_removeStage prepared.stageRoot
    (fun _ _ held => held.of_same) (fun _ _ _ _ _ => trivial) stands).weaken (fun _ _ kept => kept)
    (fun _ _ _ _ _ => trivial) fun _ _ _ _ _ => trivial)) ?_
  rintro _ log d stands _
  exact keeps_checked stands (fun _ _ => trivial) fun _ _ => trivial

end

/-! ## Recoveries none of whose calls fails -/

/-- The application has the pointers to go back to, or the bundle is published. -/
def Unmoved (app : AppId) (bundle : BundleV1) (bundled : Content) (back : Pointers Content) (d : Disk Content) : Prop :=
  Landed app bundle bundled d ∨ (d.apps app).pointers = back

theorem Unmoved.of_same (unmoved : Unmoved app bundle bundled back before) (same : after.apps = before.apps)
    (journals : after.journals = before.journals) : Unmoved app bundle bundled back after := by
  rcases unmoved with landed | pointers
  · exact .inl (landed.of_same same (by rw [journals]))
  · exact .inr (by rw [same, pointers])

theorem asBefore_pointers {files later : AppFiles Content} (same : AsBefore files later) : later.pointers = files.pointers := by
  rw [AppFiles.pointers, same.manifest, same.current, same.state]
  rfl

/-- What stands at the end of the job, where the existence of a path is answered truly, unless a
    call of a recovery from the application's journal fails. -/
def Unfailing {α : Type} (app : AppId) (fail : PackageError → Disk Content → Prop) (post : α → Disk Content → Prop)
    (job : Transaction Content α) (d : Disk Content) : Prop :=
  Job.Spares (recoverJournal app.value) (fun answer : Answer => answer.fails = true) Truthful fail post job d

section
variable {inv : List Place → Disk Content → Prop} {fail : PackageError → List Place → Disk Content → Prop} {α : Type}

theorem calm_fails : Fails (fun answer => Truthful answer ∧ ¬ answer.fails = true) inv fail := by
  rintro error log disk ⟨answer, ⟨-, calm⟩, failed⟩ _
  exact absurd failed calm

/-- A recovery none of whose calls fails. -/
theorem unfailing_recoverOwn (stands : Amid app bundle bundled base d) :
    Unfailing app (fun _ => Unmoved app bundle bundled (base.apps app).pointers)
      (fun _ => Unmoved app bundle bundled (base.apps app).pointers) (recoverJournal app.value) d := by
  cases found : d.journals.lookup app.value with
  | none =>
    have unmoved : Unmoved app bundle bundled (base.apps app).pointers d := by
      cases stands.midway with
      | untouched _ same => exact .inr (asBefore_pointers same)
      | underway journal underway => exact absurd (found.symm.trans underway.found) (by simp)
      | landed landed => exact .inl landed
    refine Job.Keeps.spares (I := fun _ later => later = d) (keeps_bind
      (keeps_look (Q := fun answer _ later => answer = none ∧ later = d) ?_ rfl ⟨found, rfl⟩) ?_)
    · rintro _ _ _ _ rfl
      exact unmoved
    · rintro _ log _ _ ⟨rfl, rfl⟩
      exact keeps_throw rfl unmoved
  | some journal =>
    have underway := stands.midway.own found
    refine Job.spares_part ((keeps_recoverJournal calm_fails found underway.written
      (mending_refl app journal d)).weaken (fun _ _ recovering => recovering) (fun _ _ _ _ failed => failed) ?_)
    intro _ _ later _ mended
    right
    rw [AppFiles.pointers, mended.restored.manifest, mended.restored.current, mended.restored.state,
      underway.records.manifest, underway.records.current, underway.records.state]
    rfl

/-- An install that fails ends with its recovery. -/
theorem unfailing_orRecover {job : Transaction Content α} {post : α → List Place → Disk Content → Prop}
    (keeps : Keeps Truthful (fun _ => Amid app bundle bundled base) (fun _ _ _ => True) post job [] d) :
    Unfailing app (fun _ => Unmoved app bundle bundled (base.apps app).pointers) (fun _ _ => True) (orRecover app job) d := by
  refine Job.spares_bind (M := fun _ => Amid app bundle bundled base) (Job.spares_outcome (Job.Keeps.spares
    (keeps.weaken (fun _ _ stands => stands) (fun _ _ _ stands _ => stands) fun _ _ _ stands _ => stands))) ?_
  intro outcome d stands
  cases outcome with
  | ok result => exact Job.spares_pure trivial
  | error error =>
    refine Job.spares_bind (M := fun _ => Unmoved app bundle bundled (base.apps app).pointers)
      (Job.spares_outcome (unfailing_recoverOwn stands)) ?_
    intro _ d unmoved
    exact Job.spares_throw unmoved

/-- The journal is written before anything else. -/
theorem keeps_beginInstall_apps {prepared : PreparedPackage Content} {targetPreexisted : Bool} (same : d.apps = base.apps) :
    Keeps Truthful (fun _ later => later.apps = base.apps) (fun _ _ later => later.apps = base.apps)
      (fun _ _ later => later.apps = base.apps) (beginInstall app prepared targetPreexisted) log d := by
  have fails : Fails Truthful (fun _ (later : Disk Content) => later.apps = base.apps)
      fun _ _ later => later.apps = base.apps := fun _ _ _ _ same => same
  refine keeps_bind (keeps_look (Q := fun _ _ later => later.apps = base.apps) fails same same) ?_
  intro _ log d _ same
  refine keeps_bind (keeps_glance (Q := fun _ _ later => later.apps = base.apps) same (fun _ => same) same) ?_
  intro _ log d _ same
  refine keeps_bind (keeps_look (Q := fun _ _ later => later.apps = base.apps) fails same same) ?_
  intro _ log d _ same
  refine keeps_bind (keeps_atomicWrite (Q := fun _ _ later => later.apps = base.apps) fails same same same) ?_
  intro _ log d _ same
  exact keeps_pure same same

/-- From the journal on, where nothing has changed yet. -/
theorem unfailing_begun {prepared : PreparedPackage Content} {targetPreexisted : Bool}
    (idle : d.journals.lookup app.value = none) (named : (d.apps app).pointers.LinkNamed)
    (preexisted : targetPreexisted = ((d.apps app).releases.lookup prepared.bundle.contentId).isSome)
    {job : Option ContentId → Transaction Content α}
    (keeps : ∀ previous journal later, Frame app d later → Underway app prepared.bundle (d.apps app) journal later →
      journal.targetPreexisted = targetPreexisted → later.apps = d.apps →
      Keeps Truthful (fun _ => Amid app prepared.bundle prepared.manifestBytes d) (fun _ _ _ => True) (fun _ _ _ => True)
        (job previous) [] later) :
    Unfailing app (fun _ => Unmoved app prepared.bundle prepared.manifestBytes (d.apps app).pointers) (fun _ _ => True)
      (do
        let previousContentId ← beginInstall app prepared targetPreexisted
        orRecover app (job previousContentId)) d := by
  have begins : Keeps Truthful _ _ _ (beginInstall app prepared targetPreexisted) [] d :=
    keeps_beginInstall (fun _ truthful => truthful) (frame_refl app d) idle rfl named preexisted
  have apps : Keeps Truthful (fun _ later => later.apps = d.apps) (fun _ _ later => later.apps = d.apps)
      (fun _ _ later => later.apps = d.apps) (beginInstall app prepared targetPreexisted) [] d := keeps_beginInstall_apps rfl
  refine Job.spares_bind ((Job.Spares.and
    (begins.weaken (fun _ _ stands => stands) (fun _ _ _ _ failed => failed) fun _ _ _ _ ends => ends.2).spares
    apps.spares).weaken ?_ fun _ _ ends => ends.1) ?_
  · rintro error later ⟨-, same⟩
    exact .inr (by rw [same])
  · rintro previous later ⟨frame, journal, underway, brought, same, -⟩
    exact unfailing_orRecover (keeps previous journal later frame underway brought same)

variable (formats : Formats Content) {prepared : PreparedPackage Content}

theorem unfailing_finishExistingInstall (idle : d.journals.lookup app.value = none)
    (named : (d.apps app).pointers.LinkNamed)
    (present : ((d.apps app).releases.lookup prepared.bundle.contentId).isSome = true) :
    Unfailing app (fun _ => Unmoved app prepared.bundle prepared.manifestBytes (d.apps app).pointers) (fun _ _ => True)
      (finishExistingInstall formats app prepared) d := by
  have still : Fails Truthful (fun _ later => later = d)
      fun _ _ => Unmoved app prepared.bundle prepared.manifestBytes (d.apps app).pointers := by
    rintro _ _ _ _ rfl
    exact .inr rfl
  have reads : Keeps Truthful _ _ _ (readState app) [] d := keeps_readState still (fun _ => .inr rfl) rfl
  refine Job.spares_bind (M := fun state later => (d.apps app).state = some state ∧ later = d)
    (reads.weaken (fun _ _ stands => stands) (fun _ _ _ _ failed => failed) fun _ _ _ _ ends => ⟨ends.1, ends.2.2⟩).spares ?_
  rintro state d ⟨found, rfl⟩
  refine Job.spares_bind (M := fun current later => current = (d.apps app).current ∧ later = d) (Job.Keeps.spares
    (I := fun _ later => later = d) (keeps_glance rfl ?_ ⟨rfl, rfl⟩)) ?_
  · rintro ⟨answer, truthful, hides⟩
    exact absurd hides (ne_true_of_eq_false truthful)
  rintro _ d ⟨rfl, rfl⟩
  by_cases isCurrent : isCurrent prepared.bundle state (d.apps app).current = true
  · simp only [isCurrent, if_true]
    simp only [Package.isCurrent, decide_eq_true_eq] at isCurrent
    obtain ⟨published, version, package, current⟩ := isCurrent
    have fails : Fails Truthful (fun _ => Unmoved app prepared.bundle prepared.manifestBytes (d.apps app).pointers)
        fun _ _ => Unmoved app prepared.bundle prepared.manifestBytes (d.apps app).pointers := fun _ _ _ _ unmoved => unmoved
    have stands : Unmoved app prepared.bundle prepared.manifestBytes (d.apps app).pointers d := .inr rfl
    refine Job.Keeps.spares (I := fun _ => Unmoved app prepared.bundle prepared.manifestBytes (d.apps app).pointers) ?_
    refine keeps_bind (keeps_checked (Q := fun text _ later =>
      text = ⟨prepared.manifestBytes, prepared.bundle.contentId⟩ ∧ later = d) stands (fun _ _ => stands) fun _ ok => ⟨materialize_eq formats ok, rfl⟩) ?_
    rintro text log later _ ⟨release, rfl⟩
    have landed : Landed app prepared.bundle prepared.manifestBytes (setManifest app (some text) later) := by
      refine ⟨idle, ⟨?_, ?_, ?_, ?_⟩, ?_, ?_, ?_⟩ <;>
        simp [setManifest, edit_self, found, published, version, package, current, release, present]
    refine keeps_bind (M := fun _ _ => Unmoved app prepared.bundle prepared.manifestBytes (later.apps app).pointers)
      (keeps_atomicWrite fails stands (.inl landed) (.inl landed)) ?_
    rintro _ log d _ unmoved
    refine keeps_bind (keeps_removeStage prepared.stageRoot (fun _ _ unmoved => unmoved.of_same) fails unmoved) ?_
    rintro _ log d _ unmoved
    exact keeps_pure unmoved trivial
  · simp only [isCurrent]
    refine Job.spares_bind (M := fun _ later => later = d) (Job.Keeps.spares (keeps_look still rfl rfl)) ?_
    rintro release d rfl
    refine Job.spares_bind (M := fun _ later => later = d) (Job.Keeps.spares (keeps_look still rfl rfl)) ?_
    rintro stage d rfl
    refine Job.spares_bind (M := fun _ later => later = d) (Job.Keeps.spares (I := fun _ later => later = d)
      (keeps_checked rfl (fun _ _ => .inr rfl) fun _ _ => rfl)) ?_
    rintro _ d rfl
    refine unfailing_begun idle named (by rw [present]) ?_
    intro previous journal later frame underway _ apps
    exact keeps_publishExistingInstall formats frame underway (by rw [apps]; exact present)

/-- An install that fails where no journal is pending: unless a call of its recovery fails, the
    pointers are those that it found, or the bundle is published. -/
theorem unfailing_installRecovered (idle : d.journals.lookup app.value = none) (named : (d.apps app).pointers.LinkNamed) :
    Unfailing app (fun _ => Unmoved app prepared.bundle prepared.manifestBytes (d.apps app).pointers) (fun _ _ => True)
      (do
        prepareInstallPaths app prepared
        if (← glance (releaseSlot app prepared.bundle.contentId).get).isSome then
          finishExistingInstall formats app prepared
        else
          let previousContentId ← beginInstall app prepared false
          orRecover app (publishInstall formats app prepared previousContentId)) d := by
  have still : Fails Truthful (fun _ later => later = d)
      fun _ _ => Unmoved app prepared.bundle prepared.manifestBytes (d.apps app).pointers := by
    rintro _ _ _ _ rfl
    exact .inr rfl
  have prepares : Keeps Truthful _ _ _ (prepareInstallPaths app prepared) [] d :=
    keeps_prepareInstallPaths still (fun _ => .inr rfl) rfl
  refine Job.spares_bind (M := fun _ later => later = d) (prepares.weaken (fun _ _ stands => stands)
    (fun _ _ _ _ failed => failed) fun _ _ _ _ ends => ends.2).spares ?_
  rintro _ d rfl
  refine Job.spares_bind (M := fun found later =>
    found = (d.apps app).releases.lookup prepared.bundle.contentId ∧ later = d) (Job.Keeps.spares
    (I := fun _ later => later = d) (keeps_glance rfl ?_ ⟨rfl, rfl⟩)) ?_
  · rintro ⟨answer, truthful, hides⟩
    exact absurd hides (ne_true_of_eq_false truthful)
  rintro _ d ⟨rfl, rfl⟩
  cases there : (d.apps app).releases.lookup prepared.bundle.contentId with
  | some tree =>
    simp only [Option.isSome_some, if_true]
    exact unfailing_finishExistingInstall formats idle named (by rw [there]; rfl)
  | none =>
    simp only [Option.isSome_none, Bool.false_eq_true, if_false]
    refine unfailing_begun idle named (by rw [there]; rfl) ?_
    intro previous journal later frame underway brought _
    exact keeps_publishInstall formats frame underway brought

/-- The recovery that an install begins with. -/
theorem unfailing_recoverFor (kept : WellKept d) :
    Unfailing app (fun _ _ => False)
      (fun _ later => (WellKept later ∧ later.goesBack app = d.goesBack app) ∧ later.journals.lookup app.value = none)
      (recoverFor app) d := by
  refine Job.spares_bind (M := fun found later => found = d.journals.lookup app.value ∧ later = d) (Job.Keeps.spares
    (I := fun _ later => later = d) (keeps_glance rfl ?_ ⟨rfl, rfl⟩)) ?_
  · rintro ⟨answer, truthful, hides⟩
    exact absurd hides (ne_true_of_eq_false truthful)
  rintro _ d ⟨rfl, rfl⟩
  cases found : d.journals.lookup app.value with
  | none => exact Job.spares_pure ⟨⟨kept, rfl⟩, found⟩
  | some journal =>
    refine Job.spares_part ((keeps_recoverJournal_of (goesBack_recoverable app (d.goesBack app)) calm_fails ⟨kept, rfl⟩
      found).weaken (fun _ _ stands => stands) (fun _ _ _ _ failed => failed) ?_)
    rintro _ _ later _ ⟨same, erased⟩
    refine ⟨same, ?_⟩
    rw [erased]
    exact AList.lookup_erase _ _

/-- An install that fails leaves the pointers that it goes back to, or the bundle is published,
    unless a call of a recovery from the application's journal fails. -/
theorem unfailing_install (kept : WellKept d) (named : (d.goesBack prepared.manifest.id).LinkNamed) :
    Unfailing prepared.manifest.id
      (fun _ => Unmoved prepared.manifest.id prepared.bundle prepared.manifestBytes (d.goesBack prepared.manifest.id))
      (fun _ _ => True) (install formats prepared) d := by
  have staged : Unfailing prepared.manifest.id
      (fun _ => Unmoved prepared.manifest.id prepared.bundle prepared.manifestBytes (d.goesBack prepared.manifest.id))
      (fun _ _ => True) (installStaged formats prepared) d := by
    refine Job.spares_bind ((unfailing_recoverFor kept).weaken (fun _ _ => False.elim) fun _ _ ends => ends) ?_
    rintro _ later ⟨⟨-, same⟩, idle⟩
    rw [goesBack_idle idle] at same
    rw [← same] at named ⊢
    exact unfailing_installRecovered formats idle named
  refine Job.spares_bind (M := fun outcome later => ∀ error, outcome = .error error →
    Unmoved prepared.manifest.id prepared.bundle prepared.manifestBytes (d.goesBack prepared.manifest.id) later)
    (Job.spares_outcome (staged.weaken ?_ ?_)) ?_
  · intro error later unmoved _ _
    exact unmoved
  · intro result later _ error failed
    cases failed
  intro outcome later unmoved
  have fails : Fails Truthful (fun _ later => ∀ error, outcome = .error error →
      Unmoved prepared.manifest.id prepared.bundle prepared.manifestBytes (d.goesBack prepared.manifest.id) later)
      fun _ _ _ => True := fun _ _ _ _ _ => trivial
  refine Job.spares_bind (M := fun _ later => ∀ error, outcome = .error error →
    Unmoved prepared.manifest.id prepared.bundle prepared.manifestBytes (d.goesBack prepared.manifest.id) later)
    (Job.spares_outcome (Job.Keeps.spares ((keeps_removeStage prepared.stageRoot ?_ fails unmoved).weaken
      (fun _ _ unmoved => unmoved) (fun _ _ _ unmoved _ => unmoved) fun _ _ _ unmoved _ => unmoved))) ?_
  · intro before after unmoved same journals error failed
    exact (unmoved error failed).of_same same journals
  · intro _ later unmoved
    exact Job.Keeps.spares (I := fun _ end_ => end_ = later) (keeps_checked rfl unmoved fun _ _ => trivial)

end

/-- Whatever calls fail: unless the bundle is published, an install that fails leaves exactly the
    pointers that the application had, if no call of a recovery from its journal fails. If one does,
    they are still there, or a journal is pending that goes back to exactly these, and a recovery that
    ends well restores them. -/
theorem install_goes_back (formats : Formats Content) (prepared : PreparedPackage Content) (kept : WellKept disk)
    (named : (disk.goesBack prepared.manifest.id).LinkNamed) (answers : List Answer)
    (truthful : ∀ answer ∈ answers, Truthful answer) :
    let app := prepared.manifest.id
    let ran := (install formats prepared).trace answers disk
    Landed app prepared.bundle prepared.manifestBytes ran.state ∨
      (∀ error, ran.result = some (.error error) → (ran.state.apps app).pointers = disk.goesBack app ∨
          Job.Suffers (recoverJournal app.value) (fun answer => answer.fails = true) (install formats prepared) answers disk) ∧
        ran.state.goesBack app = disk.goesBack app ∧
        (∀ calm, (∀ answer ∈ calm, answer.fails = false) → ∀ outcome,
          (recoverAll.trace calm ran.state).result = some outcome → outcome = .ok ()) ∧
        ∀ last, (recoverAll.trace last ran.state).result = some (.ok ()) →
          ((recoverAll.trace last ran.state).state.apps app).pointers = disk.goesBack app := by
  have keeps : Keeps Truthful _ _ _ _ [] disk := keeps_install_held formats prepared kept (fun _ => id) named
  obtain ⟨wellKept, same | landed⟩ := keeps.stands truthful
  · by_cases published : Landed prepared.manifest.id prepared.bundle prepared.manifestBytes
      ((install formats prepared).trace answers disk).state
    · exact .inl published
    refine .inr ⟨?_, same, ?_, ?_⟩
    · intro error failed
      by_cases suffers : Job.Suffers (recoverJournal prepared.manifest.id.value) (fun answer : Answer => answer.fails = true)
          (install formats prepared) answers disk
      · exact .inr suffers
      · exact .inl (((unfailing_install formats kept named).fails truthful suffers failed).resolve_left published)
    · intro calm told outcome finished
      exact recoverAll_succeeds (goesBack_recoverable prepared.manifest.id _) ⟨wellKept, same⟩ told finished
    · intro last finished
      obtain ⟨⟨-, back⟩, idle⟩ := recoverAll_done (goesBack_recoverable prepared.manifest.id _) ⟨wellKept, same⟩ finished
      rw [← back, goesBack_idle (lookup_of_keys_nil idle)]
  · exact .inl landed

/-- The calls of the given numbers fail. -/
def faultsAt (numbers : List Nat) : List Answer := (List.range 90).map fun n => { fails := numbers.contains n }

theorem faultsAt_truthful (numbers : List Nat) : ∀ answer ∈ faultsAt numbers, Truthful answer := by
  intro answer told
  obtain ⟨n, -, rfl⟩ := List.mem_map.mp told
  rfl

/-- The install cannot remove its journal, and its recovery fails at its first call: the pointers
    are the bundle's, and the next recovery takes them away. -/
theorem install_goes_back_later :
    let after := ((install sketchpadFormats sketchpadPackage).trace (faultsAt [40, 41]) sketchpadStaged).state
    (after.apps sketchpad).current = some sketchpadBundle.contentId ∧
      ((recoverAll.trace (List.replicate 40 {}) after).state.apps sketchpad).pointers = ⟨none, none, none⟩ := by
  refine ⟨rfl, ?_⟩
  have kept : WellKept sketchpadStaged := by
    intro name journal found
    exact absurd found (by simp [sketchpadStaged])
  rcases install_goes_back sketchpadFormats sketchpadPackage kept rfl (faultsAt [40, 41])
    (faultsAt_truthful [40, 41]) with landed | ⟨-, -, -, restores⟩
  · have still : (((install sketchpadFormats sketchpadPackage).trace (faultsAt [40, 41]) sketchpadStaged).state.journals.lookup
        sketchpadPackage.manifest.id.value).isSome = true := rfl
    rw [landed.idle] at still
    cases still
  · exact restores (List.replicate 40 {}) rfl

/-- The link names another release than the state. -/
def torn : Disk Nat :=
  setState sketchpad (some { appId := "sketchpad", package := "sketchpad", currentContentId := "old", version := "1" })
    (setCurrent sketchpad (some "new") sketchpadStaged)

/-- A journal is pending that goes back to no pointer. -/
def pending : Disk Nat :=
  putJournal "sketchpad" ⟨1, "sketchpad", "new", true, none, none, none⟩ (setCurrent sketchpad (some "new") sketchpadStaged)

/-- An install that fails leaves other pointers than before: where its recovery fails too, where
    it sets the link to what the state named, and where it first recovered from a journal. -/
theorem failed_install_moves :
    (let t := (install sketchpadFormats sketchpadPackage).trace (faultsAt [40, 41]) sketchpadStaged;
      t.result = some (.error (.io (.journal "sketchpad"))) ∧ (sketchpadStaged.apps sketchpad).current = none ∧
        (t.state.apps sketchpad).current = some sketchpadBundle.contentId) ∧
    (let t := (install sketchpadFormats sketchpadPackage).trace (faultsAt [40]) torn;
      t.result = some (.error (.io (.journal "sketchpad"))) ∧ (torn.apps sketchpad).current = some "new" ∧
        (t.state.apps sketchpad).current = some "old") ∧
    (let t := (install sketchpadFormats sketchpadPackage).trace (faultsAt [6]) pending;
      t.result = some (.error (.io .root)) ∧ (pending.apps sketchpad).current = some "new" ∧
        (t.state.apps sketchpad).current = none) :=
  ⟨⟨rfl, rfl, rfl⟩, ⟨rfl, rfl, rfl⟩, rfl, rfl, rfl⟩

end Remagic.Package
