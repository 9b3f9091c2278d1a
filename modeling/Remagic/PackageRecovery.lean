import Remagic.PackageSpecs

/-!
# Recovering from the journal

What stands at every point of a recovery, and at its end: nothing but the application
whose journal it is has changed, and of its releases only the target of an install that
brought it. A recovery that stops has kept its journal, and so can be run again.
-/

namespace Remagic.Package
open Tasks Job

variable {Content : Type} {allowed : Answer → Prop} {inv : List Place → Disk Content → Prop}
  {fail : PackageError → List Place → Disk Content → Prop} {log : List Place} {disk before after : Disk Content}
  {app : AppId} {journal : TransactionJournalV1 Content}

/-! ## Restoring the pointers -/

theorem edit_self (app : AppId) (change : AppFiles Content → AppFiles Content) (disk : Disk Content) :
    (disk.edit app change).apps app = change (disk.apps app) := by
  simp [Disk.edit]

theorem edit_other {app other : AppId} (different : other ≠ app) (change : AppFiles Content → AppFiles Content)
    (disk : Disk Content) : (disk.edit app change).apps other = disk.apps other := by
  simp [Disk.edit, different]

section
variable (fails : Fails allowed inv fail) {post : Unit → List Place → Disk Content → Prop}
include fails

theorem keeps_restoreCurrent {previous : Option ContentId} (stands : inv log disk)
    (done : inv (log ++ [.current app]) (setCurrent app previous disk))
    (ends : post () (log ++ [.current app]) (setCurrent app previous disk)) :
    Keeps allowed inv fail post (restoreCurrent app previous) log disk := by
  cases previous with
  | some previous => exact keeps_atomicSymlink fails stands done ends
  | none => exact keeps_change fails stands done ends

theorem keeps_restoreManifest {previous : Option (Published Content)} (stands : inv log disk)
    (done : inv (log ++ [.manifest app]) (setManifest app previous disk))
    (ends : post () (log ++ [.manifest app]) (setManifest app previous disk)) :
    Keeps allowed inv fail post (restoreManifest app previous) log disk := by
  cases previous with
  | some previous => exact keeps_atomicWrite fails stands done ends
  | none => exact keeps_change fails stands done ends

theorem keeps_restoreState {previous : Option InstalledPackageStateV1} (stands : inv log disk)
    (done : inv (log ++ [.state app]) (setState app previous disk))
    (ends : post () (log ++ [.state app]) (setState app previous disk)) :
    Keeps allowed inv fail post (restoreState app previous) log disk := by
  cases previous with
  | some previous => exact keeps_atomicWrite fails stands done ends
  | none => exact keeps_change fails stands done ends

end

/-! ## One journal -/

/-- Beside the application's pointers, only the target of an install that brought it has changed. -/
structure Beside (app : AppId) (journal : TransactionJournalV1 Content) (before after : Disk Content) : Prop where
  others : ∀ other, other ≠ app → after.apps other = before.apps other
  staging : after.staging = before.staging
  releases : ∀ id, id ≠ journal.targetContentId ∨ journal.targetPreexisted = true →
    (after.apps app).releases.lookup id = (before.apps app).releases.lookup id

/-- The pointers are those that the journal kept. -/
structure Pointed (journal : TransactionJournalV1 Content) (files : AppFiles Content) : Prop where
  current : files.current = journal.previousContentId
  manifest : files.manifest = journal.previousManifest
  state : files.state = journal.previousState

/-- The pointers are the journal's, and the target of an install that brought it is gone. -/
structure Restored (journal : TransactionJournalV1 Content) (files : AppFiles Content) : Prop
    extends Pointed journal files where
  target : journal.targetPreexisted = false → files.releases.lookup journal.targetContentId = none

/-- The recovery has not finished: its journal is still there. -/
structure Mending (app : AppId) (journal : TransactionJournalV1 Content) (before after : Disk Content) : Prop where
  beside : Beside app journal before after
  journals : after.journals = before.journals

/-- The recovery has finished. -/
structure Mended (app : AppId) (journal : TransactionJournalV1 Content) (before after : Disk Content) : Prop where
  beside : Beside app journal before after
  journals : after.journals = before.journals.erase app.value
  restored : Restored journal (after.apps app)

theorem mending_refl (app : AppId) (journal : TransactionJournalV1 Content) (disk : Disk Content) :
    Mending app journal disk disk :=
  ⟨⟨fun _ _ => rfl, rfl, fun _ _ => rfl⟩, rfl⟩

/-- An edit of the application that keeps the other releases keeps on mending. -/
theorem Mending.edit {change : AppFiles Content → AppFiles Content} (mending : Mending app journal before after)
    (kept : ∀ files id, id ≠ journal.targetContentId ∨ journal.targetPreexisted = true →
      (change files).releases.lookup id = files.releases.lookup id) :
    Mending app journal before (after.edit app change) := by
  refine ⟨⟨?_, mending.beside.staging, ?_⟩, mending.journals⟩
  · intro other different
    rw [edit_other different]
    exact mending.beside.others other different
  · intro id untouched
    rw [edit_self, kept _ id untouched]
    exact mending.beside.releases id untouched

/-- The target's tree is edited, if there is one. -/
theorem releaseSlot_edit (app : AppId) (id : ContentId) (run : Tree Content → Tree Content) (disk : Disk Content) :
    (releaseSlot app id).edit run disk = disk ∨
      ∃ tree, (releaseSlot app id).edit run disk = (releaseSlot app id).set (some tree) disk := by
  unfold Slot.edit
  cases (releaseSlot app id).get disk with
  | none => exact .inl rfl
  | some tree => exact .inr ⟨run tree, rfl⟩

theorem releaseSlot_set (app : AppId) (id : ContentId) (tree : Option (Tree Content)) (disk : Disk Content) :
    (releaseSlot app id).set tree disk =
      disk.edit app fun files => { files with releases := putTree id tree files.releases } := rfl

theorem lookup_putTree_ne {id other : ContentId} (different : other ≠ id) (tree : Option (Tree Content))
    (trees : AList fun _ : ContentId => Tree Content) : (putTree id tree trees).lookup other = trees.lookup other := by
  cases tree with
  | some tree => exact AList.lookup_insert_ne different
  | none => exact AList.lookup_erase_ne different

theorem Mending.set {tree : Option (Tree Content)} (mending : Mending app journal before after)
    (brought : journal.targetPreexisted = false) :
    Mending app journal before ((releaseSlot app journal.targetContentId).set tree after) := by
  rw [releaseSlot_set]
  refine mending.edit ?_
  intro files id untouched
  exact lookup_putTree_ne (untouched.resolve_right (by simp [brought])) tree files.releases

theorem Mending.slotEdit {run : Tree Content → Tree Content} (mending : Mending app journal before after)
    (brought : journal.targetPreexisted = false) :
    Mending app journal before ((releaseSlot app journal.targetContentId).edit run after) := by
  rcases releaseSlot_edit app journal.targetContentId run after with same | ⟨tree, edited⟩
  · rw [same]
    exact mending
  · rw [edited]
    exact mending.set brought

theorem Pointed.releases {files : AppFiles Content} {releases : AList fun _ : ContentId => Tree Content}
    (pointed : Pointed journal files) : Pointed journal { files with releases } :=
  ⟨pointed.current, pointed.manifest, pointed.state⟩

/-- Removing the target that the install brought leaves the pointers alone. -/
theorem mending_wears (brought : journal.targetPreexisted = false) :
    Wears (fun _ d => Mending app journal before d ∧ Pointed journal (d.apps app))
      (releaseSlot app journal.targetContentId) := by
  have sets : ∀ tree d, Pointed journal (d.apps app) →
      Pointed journal (((releaseSlot app journal.targetContentId).set tree d).apps app) := by
    intro tree d pointed
    rw [releaseSlot_set, edit_self]
    exact pointed.releases
  have edits : ∀ run d, Pointed journal (d.apps app) →
      Pointed journal (((releaseSlot app journal.targetContentId).edit run d).apps app) := by
    intro run d pointed
    rcases releaseSlot_edit app journal.targetContentId run d with same | ⟨tree, edited⟩
    · rw [same]
      exact pointed
    · rw [edited]
      exact sets _ d pointed
  constructor
  · rintro _ d _ _ ⟨mending, pointed⟩
    exact ⟨mending.slotEdit brought, edits _ d pointed⟩
  · rintro _ d _ ⟨mending, pointed⟩
    exact ⟨mending.slotEdit brought, edits _ d pointed⟩
  · rintro _ d ⟨mending, pointed⟩
    exact ⟨mending.set brought, sets none d pointed⟩

theorem keeps_undo (fails : Fails allowed (fun _ => Mending app journal before) fail)
    (stands : Mending app journal before disk) :
    Keeps allowed (fun _ => Mending app journal before) fail (fun _ _ d => Restored journal (d.apps app))
      (undo app journal) log disk := by
  have current : Mending app journal before (setCurrent app journal.previousContentId disk) :=
    stands.edit fun _ _ _ => rfl
  refine keeps_bind (M := fun _ _ d => d = setCurrent app journal.previousContentId disk)
    (keeps_restoreCurrent fails stands current rfl) ?_
  rintro _ log _ _ rfl
  have manifest : Mending app journal before
      (setManifest app journal.previousManifest (setCurrent app journal.previousContentId disk)) :=
    current.edit fun _ _ _ => rfl
  refine keeps_bind (M := fun _ _ d =>
    d = setManifest app journal.previousManifest (setCurrent app journal.previousContentId disk))
    (keeps_restoreManifest fails current manifest rfl) ?_
  rintro _ log _ _ rfl
  refine keeps_bind (M := fun _ _ d => Pointed journal (d.apps app))
    (keeps_restoreState fails manifest (manifest.edit fun _ _ _ => rfl) ?_) ?_
  · constructor <;> simp [setState, setManifest, setCurrent, edit_self]
  · intro _ log disk mending pointed
    cases brought : journal.targetPreexisted with
    | true => exact keeps_pure mending ⟨pointed, fun fresh => absurd fresh (by simp [brought])⟩
    | false =>
      have stronger : Fails allowed (fun _ d => Mending app journal before d ∧ Pointed journal (d.apps app)) fail :=
        fun error log disk faulty kept => fails error log disk faulty kept.1
      refine (keeps_removeTree stronger (mending_wears brought) (releaseSlot_lawful _ _) ⟨mending, pointed⟩).weaken
        (fun _ _ kept => kept.1) (fun _ _ _ _ failed => failed) ?_
      rintro _ _ _ _ ⟨⟨-, pointed⟩, gone⟩
      exact ⟨pointed, fun _ => gone⟩

/-- The journal of the name is one that the manager wrote for the application of that name. -/
structure Written (name : String) (app : AppId) (journal : TransactionJournalV1 Content) : Prop where
  named : app.value = name
  schema : journal.schema = 1
  appId : journal.appId = name

theorem new_value (app : AppId) : AppId.new app.value = .ok app := by
  cases app with
  | mk value valid => simp [AppId.new, valid]

/-- A recovery mends, until its last call has mended. -/
theorem keeps_recoverJournal {name : String}
    (fails : Fails allowed (fun _ d => Mending app journal before d ∨ Mended app journal before d) fail)
    (present : before.journals.lookup name = some journal) (written : Written name app journal)
    (stands : Mending app journal before disk) :
    Keeps allowed (fun _ d => Mending app journal before d ∨ Mended app journal before d) fail
      (fun _ _ => Mended app journal before) (recoverJournal name) log disk := by
  refine keeps_bind (keeps_look (Q := fun found _ d => found = some journal ∧ d = disk) fails (.inl stands)
    ⟨by rw [stands.journals, present], rfl⟩) ?_
  rintro _ log _ _ ⟨rfl, rfl⟩
  have accepted : AppId.new journal.appId = .ok app := by
    rw [written.appId, ← written.named]
    exact new_value app
  simp only [written.schema, ne_eq, not_true, if_false, accepted]
  have mends : Fails allowed (fun _ => Mending app journal before) fail :=
    fun error log disk faulty kept => fails error log disk faulty (.inl kept)
  refine keeps_bind (M := fun _ _ d => Mending app journal before d ∧ Restored journal (d.apps app))
    ((keeps_undo mends stands).weaken (fun _ _ kept => .inl kept) (fun _ _ _ _ failed => failed)
    fun _ _ _ mending restored => ⟨mending, restored⟩) ?_
  rintro _ log disk _ ⟨mending, restored⟩
  have mended : Mended app journal before (eraseJournal name disk) := by
    refine ⟨⟨mending.beside.others, mending.beside.staging, mending.beside.releases⟩, ?_, restored⟩
    rw [written.named, ← mending.journals]
    rfl
  exact keeps_change fails (.inl mending) (.inr mended) mended

/-! ## Every journal -/

/-- Every journal is one that the manager wrote, and recovering from any keeps `P`. -/
structure Recoverable (P : Disk Content → Prop) : Prop where
  written : ∀ disk name journal, P disk → disk.journals.lookup name = some journal → ∃ app, Written name app journal
  mending : ∀ before after name app journal, P before → before.journals.lookup name = some journal →
    Written name app journal → Mending app journal before after → P after
  mended : ∀ before after name app journal, P before → before.journals.lookup name = some journal →
    Written name app journal → Mended app journal before after → P after

section
variable {P : Disk Content → Prop}

theorem keeps_recoverJournal_of (recoverable : Recoverable P) (fails : Fails allowed (fun _ => P) fail) {name : String}
    (stands : P disk) (present : disk.journals.lookup name = some journal) :
    Keeps allowed (fun _ => P) fail (fun _ _ d => P d ∧ d.journals = disk.journals.erase name) (recoverJournal name)
      log disk := by
  obtain ⟨app, written⟩ := recoverable.written disk name journal stands present
  have kept : ∀ d, Mending app journal disk d ∨ Mended app journal disk d → P d := by
    rintro d (mending | mended)
    · exact recoverable.mending disk d name app journal stands present written mending
    · exact recoverable.mended disk d name app journal stands present written mended
  have stronger : Fails allowed (fun _ d => Mending app journal disk d ∨ Mended app journal disk d) fail :=
    fun error log d faulty recovering => fails error log d faulty (kept d recovering)
  refine (keeps_recoverJournal stronger present written (mending_refl app journal disk)).weaken (fun _ d => kept d)
    (fun _ _ _ _ failed => failed) ?_
  intro _ _ d recovering mended
  exact ⟨kept d recovering, written.named ▸ mended.journals⟩

/-- Once every journal is recovered, none is left. -/
theorem keeps_recoverAll (recoverable : Recoverable P) (fails : Fails allowed (fun _ => P) fail) (stands : P disk) :
    Keeps allowed (fun _ => P) fail (fun _ _ d => P d ∧ d.journals.keys = []) recoverAll log disk := by
  refine keeps_bind (keeps_readDir (Q := fun names _ d => P d ∧ names.Perm d.journals.keys) fails stands
    fun _ listed => ⟨stands, listed⟩) ?_
  rintro names log disk _ ⟨stands, listed⟩
  refine (keeps_each (R := fun rest _ d => P d ∧ rest.Perm d.journals.keys) (fun _ _ _ ready => ready.1) ?_
    ⟨stands, listed⟩).weaken (fun _ _ kept => kept) (fun _ _ _ _ failed => failed) ?_
  · rintro name rest log disk _ ⟨stands, listed⟩
    have member : name ∈ disk.journals := AList.mem_keys.mpr (listed.subset List.mem_cons_self)
    obtain ⟨journal, present⟩ := Option.isSome_iff_exists.mp (AList.lookup_isSome.mpr member)
    refine (keeps_recoverJournal_of recoverable fails stands present).weaken (fun _ _ kept => kept)
      (fun _ _ _ _ failed => failed) ?_
    rintro _ _ d _ ⟨kept, erased⟩
    refine ⟨kept, ?_⟩
    rw [erased, AList.keys_erase]
    exact (List.cons_perm_iff_perm_erase.mp listed).2
  · rintro _ _ d _ ⟨kept, listed⟩
    exact ⟨kept, List.perm_nil.mp listed.symm⟩

end

/-- Where no journal is left, recovery has nothing to do. -/
theorem keeps_recoverAll_idle (fails : Fails allowed (fun _ d => d = disk) fail) (idle : disk.journals.keys = []) :
    Keeps allowed (fun _ d => d = disk) fail (fun _ _ d => d = disk) recoverAll log disk := by
  refine keeps_bind (keeps_readDir (Q := fun names _ _ => names = []) fails rfl ?_) ?_
  · intro names listed
    rw [idle] at listed
    exact List.perm_nil.mp listed
  · rintro _ log _ rfl rfl
    exact keeps_pure rfl rfl

/-- Any number of recoveries, each of which may stop anywhere or fail. -/
inductive Rerun (first : Disk Content) : Disk Content → Prop where
  | none : Rerun first first
  | again {later : Disk Content} (reruns : Rerun first later) (answers : List Answer) :
      Rerun first (recoverAll.trace answers later).state

theorem Rerun.kept {P : Disk Content → Prop} (recoverable : Recoverable P) (stands : P before)
    (reruns : Rerun before after) : P after := by
  induction reruns with
  | none => exact stands
  | again reruns answers ih =>
    have keeps : Keeps (fun _ => True) (fun _ => P) (fun _ _ _ => True) _ recoverAll [] _ :=
      keeps_recoverAll recoverable (fun _ _ _ _ _ => trivial) ih
    exact keeps.stands fun _ _ => trivial

/-- A recovery none of whose calls fails does not fail. -/
theorem recoverAll_succeeds {P : Disk Content → Prop} (recoverable : Recoverable P) (stands : P disk)
    {answers : List Answer} (calm : ∀ answer ∈ answers, answer.fails = false) {outcome : Except PackageError Unit}
    (finished : (recoverAll.trace answers disk).result = some outcome) : outcome = .ok () := by
  cases outcome with
  | ok result => rfl
  | error error =>
    have keeps : Keeps (fun answer : Answer => answer.fails = false) (fun _ => P)
        (fun _ _ _ => Faulty fun answer => answer.fails = false) _ recoverAll [] disk :=
      keeps_recoverAll recoverable (fun _ _ _ faulty _ => faulty) stands
    obtain ⟨answer, calm, fails⟩ := keeps.fails calm finished
    exact absurd fails (by simp [calm])

/-- What is left of `P` once a recovery has succeeded. -/
theorem recoverAll_done {P : Disk Content → Prop} (recoverable : Recoverable P) (stands : P disk)
    {answers : List Answer} (finished : (recoverAll.trace answers disk).result = some (.ok ())) :
    P (recoverAll.trace answers disk).state ∧ (recoverAll.trace answers disk).state.journals.keys = [] := by
  have keeps : Keeps (fun _ => True) (fun _ => P) (fun _ _ _ => True) _ recoverAll [] disk :=
    keeps_recoverAll recoverable (fun _ _ _ _ _ => trivial) stands
  exact keeps.ends (fun _ _ => trivial) finished

theorem recoverAll_idle (idle : disk.journals.keys = []) (answers : List Answer) :
    (recoverAll.trace answers disk).state = disk := by
  have keeps : Keeps (fun _ => True) (fun _ d => d = disk) (fun _ _ _ => True) _ recoverAll [] disk :=
    keeps_recoverAll_idle (fun _ _ _ _ _ => trivial) idle
  exact keeps.stands fun _ _ => trivial

end Remagic.Package
