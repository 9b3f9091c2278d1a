import Remagic.DataBackups
import Remagic.Fallible

/-!
# What a restore brings back

A snapshot's records and copies agree with the disk that it was taken of, and where a
source is a directory the restore gives all of it back. The staged root is named with a
slash at its end: a source that is a regular file stops the restore, and a link comes
back with the process's owner.
-/

namespace Remagic.DataSchema
open Remagic.Package (Path)
open Fallible (ok_of_bind)

variable {host : Host} {before disk : Disk} {path source relative : Path} {record : SourceRecord} {backup : Option Node}

/-! ## The places above a source -/

theorem take_ancestor {count : Nat} (short : count < path.length) : path.take count ∈ ancestors path :=
  List.mem_map.mpr ⟨count, List.mem_range.mpr short, rfl⟩

theorem parentOf_some (named : path ≠ []) : parentOf path = some path.dropLast := if_neg named

theorem parent_ancestor (named : path ≠ []) : path.dropLast ∈ ancestors path := by
  have positive : 0 < path.length := List.length_pos_of_ne_nil named
  rw [List.dropLast_eq_take]
  exact take_ancestor (by omega)

/-- The source's parent is there, and no place above it is a link or a file. -/
structure Anchored (disk : Disk) (path : Path) : Prop where
  above : ∀ ancestor ∈ ancestors path, disk.above ancestor ≠ .other
  parent : disk.above path.dropLast ≠ .missing

theorem reject_iff : rejectSymlinkAncestors disk path = .ok () ↔
    ∀ ancestor ∈ ancestors path, disk.above ancestor ≠ .other := by
  unfold rejectSymlinkAncestors
  split
  · rename_i found
    obtain ⟨ancestor, member, other⟩ := List.any_eq_true.mp found
    constructor
    · intro ok
      cases ok
    · intro clear
      exact absurd (of_decide_eq_true other) (clear ancestor member)
  · rename_i clear
    constructor
    · intro _ ancestor member other
      exact clear (List.any_eq_true.mpr ⟨ancestor, member, decide_eq_true other⟩)
    · intro _
      rfl

theorem sync_iff : syncDirectory disk path = .ok () ↔ disk.above path ≠ .missing := by
  unfold syncDirectory
  split
  · rename_i missing
    constructor
    · intro ok
      cases ok
    · intro there
      exact absurd missing there
  · rename_i there
    exact ⟨fun _ => there, fun _ => rfl⟩

/-- Whatever stands on a disk stands in a directory, and that one too. -/
def Disk.Grounded (disk : Disk) : Prop :=
  ∀ path node, disk.node path = some node → ∀ ancestor ∈ ancestors path, disk.above ancestor = .directory

/-- The directories above the sources are still there. -/
def Later (before after : Disk) : Prop := ∀ place, before.above place = .directory → after.above place = .directory

theorem Disk.Grounded.anchored (grounded : before.Grounded) (later : Later before disk) (named : path ≠ [])
    {node : Node} (stands : before.node path = some node) : Anchored disk path := by
  have there (ancestor : Path) (member : ancestor ∈ ancestors path) : disk.above ancestor = .directory :=
    later ancestor (grounded path node stands ancestor member)
  refine ⟨fun ancestor member => ?_, ?_⟩
  · rw [there ancestor member]
    exact fun wrong => nomatch wrong
  · rw [there _ (parent_ancestor named)]
    exact fun wrong => nomatch wrong

/-! ## The copy -/

/-- The records of a copy give the metadata that the disk has. -/
def Recorded (disk : Disk) (source : Path) (entries : List EntryRecord) : Prop :=
  ∀ entry ∈ entries,
    entry.mode = disk.mode (source ++ entry.relative) ∧ entry.owner = disk.owner (source ++ entry.relative)

theorem recorded_append {left right : List EntryRecord} (first : Recorded disk source left)
    (second : Recorded disk source right) : Recorded disk source (left ++ right) := by
  intro entry member
  rcases List.mem_append.mp member with member | member
  · exact first entry member
  · exact second entry member

theorem recorded_cons {kind : EntryKind} {size : Nat} {sha256 linkTarget : Option String} {entries : List EntryRecord}
    (rest : Recorded disk source entries) :
    Recorded disk source (entryRecord disk source relative kind size sha256 linkTarget :: entries) := by
  intro entry member
  rcases List.mem_cons.mp member with rfl | member
  · exact ⟨rfl, rfl⟩
  · exact rest entry member

theorem recorded_nil : Recorded disk source [] := fun _ member => absurd member List.not_mem_nil

/-- The copy of an entry and its records agree with the entry. -/
structure Copied (host : Host) (disk : Disk) (source relative : Path) (node copy : Node) (entries : List EntryRecord) :
    Prop where
  same : copy = node
  inspects : ∀ root, inspectEntry host root relative node = .ok (contentRecords entries)
  clones : ∀ root, cloneBackupEntry root node = .ok node
  walks : entries.map (fun entry => (entry.relative, entry.kind)) = node.walk relative
  recorded : Recorded disk source entries

structure CopiedChildren (host : Host) (disk : Disk) (source relative : Path) (children copies : List (String × Node))
    (entries : List EntryRecord) : Prop where
  same : copies = children
  inspects : ∀ root, inspectChildren host root relative children = .ok (contentRecords entries)
  clones : ∀ root, cloneChildren root children = .ok children
  walks : entries.map (fun entry => (entry.relative, entry.kind)) = walkChildren relative children
  recorded : Recorded disk source entries

theorem contentRecords_append (left right : List EntryRecord) :
    contentRecords (left ++ right) = contentRecords left ++ contentRecords right := List.map_append

mutual
theorem copyEntry_ok {relative : Path} {copy : Node} {entries : List EntryRecord} : ∀ {node : Node},
    copyEntry host disk source relative node = .ok (copy, entries) → Copied host disk source relative node copy entries
  | .symlink target, ok => by
    cases ok
    exact ⟨rfl, fun _ => rfl, fun _ => rfl, rfl, recorded_cons recorded_nil⟩
  | .file bytes, ok => by
    cases ok
    exact ⟨rfl, fun _ => rfl, fun _ => rfl, rfl, recorded_cons recorded_nil⟩
  | .directory children, ok => by
    rw [copyEntry] at ok
    obtain ⟨⟨copies, others⟩, below, ok⟩ := ok_of_bind ok
    cases ok
    obtain ⟨same, inspects, clones, walks, recorded⟩ := copyChildren_ok below
    refine ⟨by rw [same], fun root => ?_, fun root => ?_, ?_, recorded_cons recorded⟩
    · rw [inspectEntry, inspects root]
      rfl
    · rw [cloneBackupEntry, clones root]
      rfl
    · rw [Node.walk, ← walks]
      rfl
  | .special, ok => by cases ok

theorem copyChildren_ok {relative : Path} {copies : List (String × Node)} {entries : List EntryRecord} :
    ∀ {children : List (String × Node)}, copyChildren host disk source relative children = .ok (copies, entries) →
      CopiedChildren host disk source relative children copies entries
  | [], ok => by
    cases ok
    exact ⟨rfl, fun _ => rfl, fun _ => rfl, rfl, recorded_nil⟩
  | (name, child) :: rest, ok => by
    rw [copyChildren] at ok
    obtain ⟨⟨copy, first⟩, one, ok⟩ := ok_of_bind ok
    obtain ⟨⟨others, records⟩, more, ok⟩ := ok_of_bind ok
    cases ok
    obtain ⟨same, inspects, clones, walks, recorded⟩ := copyEntry_ok one
    obtain ⟨sameRest, inspectsRest, clonesRest, walksRest, recordedRest⟩ := copyChildren_ok more
    refine ⟨by rw [same, sameRest], fun root => ?_, fun root => ?_, ?_, recorded_append recorded recordedRest⟩
    · rw [inspectChildren, inspects root, contentRecords_append]
      simp only [inspectsRest root, bind, Except.bind, pure, Except.pure]
    · rw [cloneChildren, clones root]
      simp only [clonesRest root, bind, Except.bind, pure, Except.pure]
    · rw [walkChildren, List.map_append, walks, walksRest]
end

/-- The records of a source, in the order of their paths, with the copy. -/
structure Captured (host : Host) (disk : Disk) (node : Node) (record : SourceRecord) : Prop where
  existed : record.existed = true
  inspects : ∀ root, inspectTree host root node = .ok (contentRecords record.entries)
  clones : ∀ root, cloneBackupEntry root node = .ok node
  walks : ∀ place kind, (place, kind) ∈ node.walk [] ↔
    ∃ entry ∈ record.entries, entry.relative = place ∧ entry.kind = kind
  recorded : Recorded disk record.path record.entries

theorem contentRecords_sorted (entries : List EntryRecord) :
    contentRecords (entries.mergeSort fun left right => relativeLe left.relative right.relative) =
      (contentRecords entries).mergeSort fun left right => relativeLe left.relative right.relative :=
  List.map_mergeSort fun _ _ _ _ => rfl

theorem captureSource_ok (ok : captureSource host disk source = .ok (record, backup)) :
    record.path = source ∧ backup = disk.node source ∧
      match disk.node source with
      | none => record.existed = false
      | some node => Captured host disk node record := by
  obtain ⟨⟨⟩, _, ok⟩ := ok_of_bind ok
  cases stands : disk.node source with
  | none =>
    rw [stands] at ok
    cases ok
    exact ⟨rfl, rfl, rfl⟩
  | some node =>
    rw [stands] at ok
    obtain ⟨⟨copy, entries⟩, copied, ok⟩ := ok_of_bind ok
    cases ok
    obtain ⟨same, inspects, clones, walks, recorded⟩ := copyEntry_ok copied
    refine ⟨rfl, by rw [same], rfl, fun root => ?_, clones, fun place kind => ?_, fun entry member => ?_⟩
    · rw [contentRecords_sorted, inspectTree, inspects root]
      rfl
    · rw [← walks, List.mem_map]
      simp only [List.mem_mergeSort, Prod.mk.injEq]
    · exact recorded entry (List.mem_mergeSort.mp member)

theorem verifySource_ok (ok : captureSource host disk source = .ok (record, backup)) :
    verifySource host (record, backup) = .ok () := by
  obtain ⟨-, rfl, described⟩ := captureSource_ok ok
  cases stands : disk.node source with
  | none =>
    rw [stands] at described
    simp only [verifySource, described]
    rfl
  | some node =>
    rw [stands] at described
    simp only [verifySource, described.existed, described.inspects]
    simp [bind, Except.bind, pure, Except.pure]

/-! ## The metadata of a staged directory -/

/-- What a field becomes when each record in turn sets it at its entry. -/
def assign {β : Type} (field : EntryRecord → β) (entries : List EntryRecord) (values : Path → β) : Path → β :=
  entries.foldl (fun values entry => Function.update values entry.relative (field entry)) values

theorem assign_cons {β : Type} (field : EntryRecord → β) (entry : EntryRecord) (rest : List EntryRecord)
    (values : Path → β) :
    assign field (entry :: rest) values =
      assign field rest (Function.update values entry.relative (field entry)) := rfl

/-- Records that agree with `goal` leave it at every entry of theirs, in whatever order. -/
theorem assign_eq {β : Type} {field : EntryRecord → β} (goal : Path → β) {entries : List EntryRecord}
    (agree : ∀ entry ∈ entries, field entry = goal entry.relative) {values : Path → β} {place : Path}
    (set : values place = goal place ∨ ∃ entry ∈ entries, entry.relative = place) :
    assign field entries values place = goal place := by
  induction entries generalizing values with
  | nil =>
    rcases set with set | ⟨entry, member, -⟩
    · exact set
    · exact absurd member List.not_mem_nil
  | cons head rest ih =>
    rw [assign_cons]
    refine ih (fun entry member => agree entry (List.mem_cons_of_mem head member)) ?_
    by_cases here : head.relative = place
    · left
      rw [← here, Function.update_self, agree head List.mem_cons_self]
    · rcases set with set | ⟨entry, member, same⟩
      · left
        rw [Function.update_of_ne (Ne.symm here), set]
      · rcases List.mem_cons.mp member with rfl | later
        · exact absurd same here
        · exact .inr ⟨entry, later, same⟩

section Directory
variable {staging : Path} {children : List (String × Node)} {mode : Path → BitVec 12} {owner : Path → Owner}

theorem setOwner_directory (relative : Path) (given : Owner) :
    setOwner host staging (disk, ⟨.directory children, mode, owner⟩) relative given =
      .ok (disk, ⟨.directory children, mode, Function.update owner relative given⟩) := by
  cases relative with
  | nil => rfl
  | cons name rest => rfl

theorem setPermissions_directory (operation : String) (relative : Path) (bits : BitVec 12) :
    setPermissions staging operation ⟨.directory children, mode, owner⟩ relative bits =
      .ok ⟨.directory children, Function.update mode relative bits, owner⟩ := by
  cases relative with
  | nil => rfl
  | cons name rest => rfl

theorem applyEntries_directory (entries : List EntryRecord) :
    entries.foldlM (applyEntry host staging) (disk, ⟨.directory children, mode, owner⟩) =
      .ok (disk, ⟨.directory children, assign EntryRecord.mode (entries.filter fun entry => entry.kind = .file) mode,
        assign EntryRecord.owner entries owner⟩) := by
  induction entries generalizing mode owner with
  | nil => rfl
  | cons entry rest ih =>
    rw [List.foldlM_cons, applyEntry, setOwner_directory]
    by_cases file : entry.kind = .file
    · simp only [bind, Except.bind, file, if_true, setPermissions_directory, pure, Except.pure, List.filter_cons,
        decide_true, assign_cons]
      exact ih
    · simp only [bind, Except.bind, file, if_false, pure, Except.pure, List.filter_cons, decide_false,
        Bool.false_eq_true, assign_cons]
      exact ih

theorem applyDirectories_directory (operation : String) (entries : List EntryRecord) :
    entries.foldlM (fun staged entry => setPermissions staging operation staged entry.relative entry.mode)
        ⟨.directory children, mode, owner⟩ =
      .ok ⟨.directory children, assign EntryRecord.mode entries mode, owner⟩ := by
  induction entries generalizing mode with
  | nil => rfl
  | cons entry rest ih =>
    rw [List.foldlM_cons, setPermissions_directory]
    exact ih

/-- A directory's clone takes the metadata of every record. -/
theorem applySourceMetadata_directory (disk : Disk) (staging : Path)
    (captured : Captured host before (.directory children) record) :
    ∃ staged, applySourceMetadata host staging (disk, Staged.clone host (.directory children)) record.entries =
        .ok (disk, staged) ∧ staged.node = .directory children ∧
      ∀ place kind, (place, kind) ∈ Node.walk [] (.directory children) →
        staged.owner place = before.owner (record.path ++ place) ∧
          (kind ≠ .symlink → staged.mode place = before.mode (record.path ++ place)) := by
  rw [Staged.clone, applySourceMetadata, applyEntries_directory]
  simp only [bind, Except.bind, applyDirectories_directory, pure, Except.pure]
  refine ⟨_, rfl, rfl, fun place kind walked => ?_⟩
  obtain ⟨entry, member, at_place, of_kind⟩ := (captured.walks place kind).mp walked
  constructor
  · exact assign_eq (fun place => before.owner (record.path ++ place))
      (fun entry member => (captured.recorded entry member).2) (.inr ⟨entry, member, at_place⟩)
  · intro set
    refine assign_eq (fun place => before.mode (record.path ++ place)) (fun entry member => ?_) ?_
    · exact (captured.recorded entry (List.mem_of_mem_filter (List.mem_mergeSort.mp member))).1
    · cases kind with
      | symlink => exact absurd rfl set
      | directory =>
        right
        refine ⟨entry, List.mem_mergeSort.mpr (List.mem_filter.mpr ⟨member, ?_⟩), at_place⟩
        exact decide_eq_true of_kind
      | file =>
        left
        refine assign_eq (fun place => before.mode (record.path ++ place)) (fun entry member => ?_) ?_
        · exact (captured.recorded entry (List.mem_of_mem_filter member)).1
        · exact .inr ⟨entry, List.mem_filter.mpr ⟨member, decide_eq_true of_kind⟩, at_place⟩

end Directory

/-! ## A source that comes back -/

/-- What a source was, with the metadata of everything in it. -/
structure Restored (before final : Disk) (path : Path) : Prop where
  node : final.node path = before.node path
  metadata : ∀ node, before.node path = some node → ∀ place kind, (place, kind) ∈ node.walk [] →
    final.owner (path ++ place) = before.owner (path ++ place) ∧
      (kind ≠ .symlink → final.mode (path ++ place) = before.mode (path ++ place))

/-- An absent source has its parent to be absent from, and one that existed is a directory. -/
def Restorable (before after : Disk) (path : Path) : Prop :=
  match before.node path with
  | none => Anchored after path
  | some (.directory _) => True
  | some _ => False

/-- Everything that is not at a source or in it is as it was. -/
structure Untouched (path : Path) (disk next : Disk) : Prop where
  above : next.above = disk.above
  node : ∀ place, place ≠ path → next.node place = disk.node place
  mode : ∀ place, ¬ path <+: place → next.mode place = disk.mode place
  owner : ∀ place, ¬ path <+: place → next.owner place = disk.owner place

theorem removePath_untouched : Untouched path disk (removePath disk path) :=
  ⟨rfl, fun _ other => Function.update_of_ne other _ _, fun _ _ => rfl, fun _ _ => rfl⟩

theorem publish_untouched {staged : Staged} : Untouched path disk (publish disk path staged) :=
  ⟨rfl, fun _ other => Function.update_of_ne other _ _, fun _ other => if_neg other, fun _ other => if_neg other⟩

theorem publish_node (staged : Staged) : (publish disk path staged).node path = some staged.node :=
  Function.update_self _ _ _

theorem publish_mode (disk : Disk) (path : Path) (staged : Staged) (place : Path) :
    (publish disk path staged).mode (path ++ place) = staged.mode place := by
  rw [publish]
  simp only [List.prefix_append, if_true, List.drop_left]

theorem publish_owner (disk : Disk) (path : Path) (staged : Staged) (place : Path) :
    (publish disk path staged).owner (path ++ place) = staged.owner place := by
  rw [publish]
  simp only [List.prefix_append, if_true, List.drop_left]

/-- An absent source is removed. -/
theorem restoreSource_absent (at_path : record.path = path) (absent : record.existed = false) (named : path ≠ [])
    (anchored : Anchored disk path) (index : Nat) :
    restoreSource host disk record backup index = .ok (removePath disk path) := by
  have synced : syncDirectory (removePath disk path) path.dropLast = .ok () := sync_iff.mpr anchored.parent
  unfold restoreSource
  rw [at_path, reject_iff.mpr anchored.above, absent, parentOf_some named]
  simp only [bind, Except.bind, Bool.not_false, if_true, synced, pure, Except.pure]

/-- A directory comes back with its contents and its metadata. -/
theorem restoreSource_directory {children : List (String × Node)} (at_path : record.path = path)
    (captured : Captured host before (.directory children) record) (named : path ≠ []) (anchored : Anchored disk path)
    (index : Nat) :
    ∃ staged, restoreSource host disk record (some (.directory children)) index = .ok (publish disk path staged) ∧
      staged.node = .directory children ∧
      ∀ place kind, (place, kind) ∈ Node.walk [] (.directory children) →
        staged.owner place = before.owner (path ++ place) ∧
          (kind ≠ .symlink → staged.mode place = before.mode (path ++ place)) := by
  obtain ⟨staged, applied, node, metadata⟩ := applySourceMetadata_directory disk
    (stagingPath host path.dropLast index) captured
  have synced : syncDirectory disk path.dropLast = .ok () := sync_iff.mpr anchored.parent
  refine ⟨staged, ?_, node, by rwa [at_path] at metadata⟩
  unfold restoreSource
  rw [at_path, reject_iff.mpr anchored.above, captured.existed, parentOf_some named]
  simp only [bind, Except.bind, Bool.not_true, Bool.false_eq_true, if_false, anchored.parent, captured.clones, applied,
    node, captured.inspects, ne_eq, not_true_eq_false, synced, pure, Except.pure]

theorem restoreSource_restorable (grounded : before.Grounded) (later : Later before disk)
    (captured : captureSource host before path = .ok (record, backup)) (named : path ≠ [])
    (restorable : Restorable before disk path) (index : Nat) :
    ∃ next, restoreSource host disk record backup index = .ok next ∧ Restored before next path ∧
      Untouched path disk next := by
  obtain ⟨at_path, copied, described⟩ := captureSource_ok captured
  unfold Restorable at restorable
  cases stands : before.node path with
  | none =>
    rw [stands] at described restorable
    refine ⟨_, restoreSource_absent at_path described named restorable index, ⟨?_, ?_⟩, removePath_untouched⟩
    · rw [stands, removePath]
      exact Function.update_self _ _ _
    · intro node there
      rw [stands] at there
      cases there
  | some node =>
    rw [stands] at described restorable copied
    cases node with
    | file bytes => exact restorable.elim
    | symlink target => exact restorable.elim
    | special => exact restorable.elim
    | directory children =>
      have anchored := grounded.anchored later named stands
      obtain ⟨staged, restored, node, metadata⟩ := restoreSource_directory at_path described named anchored index
      rw [copied]
      refine ⟨_, restored, ⟨?_, ?_⟩, publish_untouched⟩
      · rw [stands, publish_node, node]
      · intro found there place kind walked
        rw [stands] at there
        cases there
        rw [publish_owner, publish_mode]
        exact metadata place kind walked

/-! ## Every source in turn -/

/-- Neither path is at or in the other. -/
def Apart (left right : Path) : Prop := ¬ left <+: right ∧ ¬ right <+: left

theorem Apart.append {left right : Path} (apart : Apart left right) (place : Path) : ¬ left <+: right ++ place := by
  intro inside
  rcases List.prefix_or_prefix_of_prefix inside (List.prefix_append right place) with within | within
  · exact apart.1 within
  · exact apart.2 within

/-- The paths that a manifest may declare. -/
structure Declared (sources : List Path) : Prop where
  named : ∀ path ∈ sources, path ≠ []
  apart : sources.Pairwise Apart

theorem Declared.rest {sources : List Path} (declared : Declared (path :: sources)) : Declared sources :=
  ⟨fun other member => declared.named other (List.mem_cons_of_mem path member),
    (List.pairwise_cons.mp declared.apart).2⟩

theorem Restored.kept {next final : Disk} (restored : Restored before next path)
    (node : final.node path = next.node path) (mode : ∀ place, final.mode (path ++ place) = next.mode (path ++ place))
    (owner : ∀ place, final.owner (path ++ place) = next.owner (path ++ place)) : Restored before final path := by
  refine ⟨by rw [node, restored.node], fun found there place kind walked => ?_⟩
  rw [owner, mode]
  exact restored.metadata found there place kind walked

theorem Restorable.later {next : Disk} (restorable : Restorable before disk path) (same : next.above = disk.above) :
    Restorable before next path := by
  unfold Restorable at restorable ⊢
  cases stands : before.node path with
  | none =>
    rw [stands] at restorable
    obtain ⟨above, parent⟩ := restorable
    exact ⟨by rwa [same], by rwa [same]⟩
  | some node =>
    rw [stands] at restorable
    cases node <;> exact restorable

theorem restoreSources_restorable {sources : List Path} {taken : Snapshot} (grounded : before.Grounded)
    (captured : List.Forall₂ (fun path kept => captureSource host before path = .ok kept) sources taken)
    (declared : Declared sources) (later : Later before disk)
    (restorable : ∀ path ∈ sources, Restorable before disk path) (index : Nat) :
    ∃ final, restoreSources host disk taken index = .ok final ∧ (∀ path ∈ sources, Restored before final path) ∧
      ∀ place, (∀ path ∈ sources, ¬ path <+: place) →
        final.node place = disk.node place ∧ final.mode place = disk.mode place ∧
          final.owner place = disk.owner place := by
  induction captured generalizing disk index with
  | nil => exact ⟨disk, rfl, fun _ member => absurd member List.not_mem_nil, fun _ _ => ⟨rfl, rfl, rfl⟩⟩
  | @cons path kept sources taken one more ih =>
    obtain ⟨record, backup⟩ := kept
    obtain ⟨next, step, restored, untouched⟩ := restoreSource_restorable grounded later one
      (declared.named path List.mem_cons_self) (restorable path List.mem_cons_self) index
    have laterNext : Later before next := by
      intro place directory
      rw [untouched.above]
      exact later place directory
    obtain ⟨final, rest, others, elsewhere⟩ := ih declared.rest laterNext
      (fun other member => (restorable other (List.mem_cons_of_mem path member)).later untouched.above) (index + 1)
    have apart : ∀ other ∈ sources, Apart path other := (List.pairwise_cons.mp declared.apart).1
    refine ⟨final, ?_, fun other member => ?_, fun place outside => ?_⟩
    · rw [restoreSources, step]
      exact rest
    · rcases List.mem_cons.mp member with rfl | member
      · have away (place : Path) : ∀ source ∈ sources, ¬ source <+: other ++ place :=
          fun source member => Apart.append ⟨(apart source member).2, (apart source member).1⟩ place
        have atSource := elsewhere other fun source member => (apart source member).2
        exact restored.kept atSource.1 (fun place => (elsewhere _ (away place)).2.1)
          fun place => (elsewhere _ (away place)).2.2
      · exact others other member
    · obtain ⟨node, mode, owner⟩ := elsewhere place fun source member => outside source (List.mem_cons_of_mem path member)
      have beyond : ¬ path <+: place := outside path List.mem_cons_self
      have other : place ≠ path := by
        rintro rfl
        exact beyond List.prefix_rfl
      exact ⟨node.trans (untouched.node place other), mode.trans (untouched.mode place beyond),
        owner.trans (untouched.owner place beyond)⟩

end Remagic.DataSchema
