import Remagic.PackageRecovery

/-!
# Where an application's pointers lead

The published manifest, the `current` link and the package state of an application
either are all absent or all name one release, which is there. While a journal is
pending they may differ, but then the journal names the pointers to go back to.
-/

namespace Remagic.Package
open Tasks Job

variable {Content : Type} {allowed : Answer → Prop} {inv : List Place → Disk Content → Prop}
  {fail : PackageError → List Place → Disk Content → Prop} {log : List Place} {disk before after : Disk Content}
  {app : AppId} {journal : TransactionJournalV1 Content} {files : AppFiles Content} {id target : ContentId}

/-- There is no pointer. -/
structure Absent (files : AppFiles Content) : Prop where
  manifest : files.manifest = none
  current : files.current = none
  state : files.state = none

/-- Every pointer names the release, and the release is there. -/
structure Describes (files : AppFiles Content) (id : ContentId) : Prop where
  manifest : files.manifest.map Published.release = some id
  current : files.current = some id
  state : files.state.map InstalledPackageStateV1.currentContentId = some id
  release : (files.releases.lookup id).isSome = true

/-- The pointers agree. -/
def Agree (files : AppFiles Content) : Prop := Absent files ∨ ∃ id, Describes files id

/-- What the journal goes back to: no pointer, or a release that it does not remove. -/
def JournalAgrees (journal : TransactionJournalV1 Content) (files : AppFiles Content) : Prop :=
  (journal.previousManifest = none ∧ journal.previousContentId = none ∧ journal.previousState = none) ∨
    ∃ id, journal.previousManifest.map Published.release = some id ∧ journal.previousContentId = some id ∧
      journal.previousState.map InstalledPackageStateV1.currentContentId = some id ∧
      (files.releases.lookup id).isSome = true ∧ (id ≠ journal.targetContentId ∨ journal.targetPreexisted = true)

/-- Every journal is one that the manager wrote. -/
def WellKept (disk : Disk Content) : Prop :=
  ∀ name journal, disk.journals.lookup name = some journal → ∃ app, Written name app journal

/-- Every application's pointers agree, or its journal goes back to pointers that do. -/
structure Sound (disk : Disk Content) : Prop where
  journals : WellKept disk
  agree : ∀ app, disk.journals.lookup app.value = none → Agree (disk.apps app)
  pending : ∀ app journal, disk.journals.lookup app.value = some journal → JournalAgrees journal (disk.apps app)

/-! ## Recovery keeps them -/

theorem written_app {name : String} {other : AppId} (written : Written name app journal) (same : other.value = name) :
    other = app := by
  have values : other.value = app.value := same.trans written.named.symm
  cases other
  cases app
  cases values
  rfl

theorem JournalAgrees.kept (agrees : JournalAgrees journal files) {later : AppFiles Content}
    (kept : ∀ id, id ≠ journal.targetContentId ∨ journal.targetPreexisted = true →
      later.releases.lookup id = files.releases.lookup id) : JournalAgrees journal later := by
  rcases agrees with absent | ⟨id, manifest, current, state, release, stays⟩
  · exact .inl absent
  · exact .inr ⟨id, manifest, current, state, by rw [kept id stays]; exact release, stays⟩

theorem JournalAgrees.restored (agrees : JournalAgrees journal files) {later : AppFiles Content}
    (restored : Restored journal later) (kept : ∀ id, id ≠ journal.targetContentId ∨ journal.targetPreexisted = true →
      later.releases.lookup id = files.releases.lookup id) : Agree later := by
  rcases agrees with ⟨manifest, current, state⟩ | ⟨id, manifest, current, state, release, stays⟩
  · exact .inl ⟨restored.manifest.trans manifest, restored.current.trans current, restored.state.trans state⟩
  · refine .inr ⟨id, ?_, restored.current.trans current, ?_, ?_⟩
    · rw [restored.manifest]
      exact manifest
    · rw [restored.state]
      exact state
    · rw [kept id stays]
      exact release

theorem wellKept_of_journals (kept : WellKept before) (same : after.journals = before.journals) : WellKept after := by
  intro name journal found
  exact kept name journal (same ▸ found)

theorem lookup_erase_some {name other : String} {journals : AList fun _ : String => TransactionJournalV1 Content}
    (found : (journals.erase name).lookup other = some journal) : other ≠ name ∧ journals.lookup other = some journal := by
  by_cases same : other = name
  · subst same
    rw [AList.lookup_erase] at found
    exact absurd found (by simp)
  · exact ⟨same, by rwa [AList.lookup_erase_ne same] at found⟩

theorem wellKept_of_erase {name : String} (kept : WellKept before) (erased : after.journals = before.journals.erase name) :
    WellKept after := by
  intro other journal found
  rw [erased] at found
  exact kept other journal (lookup_erase_some found).2

theorem sound_recoverable : Recoverable fun disk : Disk Content => Sound disk where
  written disk name journal sound found := sound.journals name journal found
  mending := by
    intro before after name app journal sound found written mending
    have pending := sound.pending app journal (by rw [written.named]; exact found)
    refine ⟨wellKept_of_journals sound.journals mending.journals, ?_, ?_⟩
    · intro other idle
      rw [mending.journals] at idle
      by_cases same : other = app
      · subst same
        rw [written.named, found] at idle
        exact absurd idle (by simp)
      · rw [mending.beside.others other same]
        exact sound.agree other idle
    · intro other journal' found'
      rw [mending.journals] at found'
      by_cases same : other = app
      · subst same
        rw [written.named, found] at found'
        cases found'
        exact pending.kept mending.beside.releases
      · rw [mending.beside.others other same]
        exact sound.pending other journal' found'
  mended := by
    intro before after name app journal sound found written mended
    have pending := sound.pending app journal (by rw [written.named]; exact found)
    refine ⟨wellKept_of_erase sound.journals mended.journals, ?_, ?_⟩
    · intro other idle
      by_cases same : other = app
      · subst same
        exact pending.restored mended.restored mended.beside.releases
      · have different : other.value ≠ app.value := fun values => same (written_app written (values.trans written.named))
        rw [mended.journals, AList.lookup_erase_ne different] at idle
        rw [mended.beside.others other same]
        exact sound.agree other idle
    · intro other journal' found'
      rw [mended.journals] at found'
      obtain ⟨different, found'⟩ := lookup_erase_some found'
      have same : other ≠ app := fun same => different (congrArg AppId.value same)
      rw [mended.beside.others other same]
      exact sound.pending other journal' found'

end Remagic.Package
