import Remagic.DataRestore

/-!
# When a restore is a round trip

A restore that brings every source back had no regular file among them, and no link that
the process does not own; every absent source had its parent. Where each source that
existed is a directory, and each that did not has its parent, the restore brings all of
them back.
-/

namespace Remagic.DataSchema
open Remagic.Package (Path)
open Fallible (ok_of_bind ok_of_guard mapM_ok foldlM_keeps foldlM_fails)

variable {host : Host} {before disk next : Disk} {path staging : Path} {record : SourceRecord} {backup : Option Node}
  {staged : Staged} {sources : List Path} {taken : Snapshot}

/-! ## What setting owners leaves alone -/

/-- Nothing but the owners of directories has changed. -/
structure Touched (disk next : Disk) : Prop where
  above : next.above = disk.above
  node : next.node = disk.node
  owner : ∀ place target, disk.node place = some (.symlink target) → next.owner place = disk.owner place

theorem Touched.refl : Touched disk disk := ⟨rfl, rfl, fun _ _ _ => rfl⟩

theorem Touched.trans {last : Disk} (first : Touched disk next) (second : Touched next last) : Touched disk last := by
  refine ⟨second.above.trans first.above, second.node.trans first.node, fun place target link => ?_⟩
  rw [second.owner place target (by rw [first.node, link]), first.owner place target link]

/-- The staged clone is of the same node, and the owner at its root is set only on a directory. -/
structure Kept (disk : Disk) (staged : Staged) (state : Disk × Staged) : Prop where
  touched : Touched disk state.1
  node : state.2.node = staged.node
  owner : ∀ target, staged.node = .symlink target → state.2.owner [] = staged.owner []

theorem Kept.refl : Kept disk staged (disk, staged) := ⟨.refl, rfl, fun _ _ => rfl⟩

theorem setOwner_kept {state after : Disk × Staged} {relative : Path} {given : Owner} (kept : Kept disk staged state)
    (ok : setOwner host staging state relative given = .ok after) : Kept disk staged after := by
  obtain ⟨current, clone⟩ := state
  obtain ⟨touched, node, owner⟩ := kept
  cases relative with
  | cons name rest =>
    cases ok
    refine ⟨touched, node, fun target link => ?_⟩
    rw [← owner target link]
    exact Function.update_of_ne (List.cons_ne_nil name rest).symm given clone.owner
  | nil =>
    cases stands : clone.node with
    | directory children =>
      simp only [setOwner, stands] at ok
      cases ok
      refine ⟨touched, stands.symm.trans node, fun target link => ?_⟩
      rw [← node, stands] at link
      cases link
    | symlink target =>
      simp only [setOwner, stands] at ok
      cases reached : host.leads current staging target with
      | none =>
        rw [reached] at ok
        cases ok
      | some directory =>
        rw [reached] at ok
        cases ok
        refine ⟨touched.trans ⟨rfl, rfl, fun place target link => ?_⟩, node, owner⟩
        refine Function.update_of_ne ?_ _ _
        rintro rfl
        obtain ⟨children, same⟩ := host.leads_directory reached _ link
        cases same
    | file bytes =>
      simp only [setOwner, stands] at ok
      cases ok
    | special =>
      simp only [setOwner, stands] at ok
      cases ok

theorem setPermissions_kept {staged clone after : Staged} {operation : String} {relative : Path} {bits : BitVec 12}
    (kept : Kept disk staged (next, clone)) (ok : setPermissions staging operation clone relative bits = .ok after) :
    Kept disk staged (next, after) := by
  obtain ⟨touched, node, owner⟩ := kept
  cases relative with
  | cons name rest =>
    cases ok
    exact ⟨touched, node, owner⟩
  | nil =>
    cases stands : clone.node with
    | directory children =>
      simp only [setPermissions, stands] at ok
      cases ok
      exact ⟨touched, stands.symm.trans node, owner⟩
    | symlink target =>
      simp only [setPermissions, stands] at ok
      cases ok
    | file bytes =>
      simp only [setPermissions, stands] at ok
      cases ok
    | special =>
      simp only [setPermissions, stands] at ok
      cases ok

theorem applyEntry_kept {state after : Disk × Staged} {entry : EntryRecord} (kept : Kept disk staged state)
    (ok : applyEntry host staging state entry = .ok after) : Kept disk staged after := by
  obtain ⟨⟨current, clone⟩, owned, ok⟩ := ok_of_bind ok
  have kept := setOwner_kept kept owned
  by_cases file : entry.kind = .file
  · simp only [file, if_true] at ok
    obtain ⟨permitted, allowed, ok⟩ := ok_of_bind ok
    cases ok
    exact setPermissions_kept kept allowed
  · simp only [file, if_false] at ok
    cases ok
    exact kept

theorem applySourceMetadata_kept {after : Disk × Staged} {entries : List EntryRecord}
    (ok : applySourceMetadata host staging (disk, staged) entries = .ok after) : Kept disk staged after := by
  obtain ⟨⟨current, clone⟩, owned, ok⟩ := ok_of_bind ok
  obtain ⟨permitted, allowed, ok⟩ := ok_of_bind ok
  cases ok
  have kept : Kept disk staged (current, clone) :=
    foldlM_keeps (fun _ _ _ kept ok => applyEntry_kept kept ok) Kept.refl owned
  exact foldlM_keeps (fun _ _ _ kept ok => setPermissions_kept kept ok) kept allowed

/-- A regular file's clone never takes its metadata: the first thing set is its root's owner. -/
theorem applySourceMetadata_file {bytes : List UInt8} (file : staged.node = .file bytes) {entries : List EntryRecord}
    {entry : EntryRecord} (member : entry ∈ entries) (root : entry.relative = []) (after : Disk × Staged) :
    applySourceMetadata host staging (disk, staged) entries ≠ .ok after := by
  intro ok
  obtain ⟨⟨current, clone⟩, owned, -⟩ := ok_of_bind ok
  refine foldlM_fails (fun _ _ _ kept ok => applyEntry_kept kept ok) member ?_ Kept.refl owned
  rintro ⟨current, clone⟩ after ⟨-, node, -⟩ ok
  obtain ⟨_, owned, -⟩ := ok_of_bind ok
  have stands : clone.node = .file bytes := node.trans file
  simp only [root, setOwner, stands] at owned
  cases owned

/-! ## A restore that succeeded -/

/-- How a source's restore succeeds. -/
theorem restoreSource_ok {index : Nat} (named : record.path ≠ [])
    (ok : restoreSource host disk record backup index = .ok next) :
    Anchored disk record.path ∧
      match record.existed with
      | false => next = removePath disk record.path
      | true => ∃ copy clone touched staged, backup = some copy ∧ cloneBackupEntry record.path copy = .ok clone ∧
          applySourceMetadata host (stagingPath host record.path.dropLast index) (disk, Staged.clone host clone)
            record.entries = .ok (touched, staged) ∧ next = publish touched record.path staged := by
  obtain ⟨⟨⟩, clear, ok⟩ := ok_of_bind ok
  have above := reject_iff.mp clear
  rw [parentOf_some named] at ok
  cases existed : record.existed with
  | false =>
    simp only [existed, Bool.not_false, if_true] at ok
    obtain ⟨⟨⟩, synced, ok⟩ := ok_of_bind ok
    cases ok
    exact ⟨⟨above, sync_iff.mp synced⟩, rfl⟩
  | true =>
    simp only [existed, Bool.not_true, Bool.false_eq_true, if_false] at ok
    cases backup with
    | none => cases ok
    | some copy =>
      obtain ⟨there, ok⟩ := ok_of_guard ok
      obtain ⟨clone, cloned, ok⟩ := ok_of_bind ok
      obtain ⟨⟨touched, staged⟩, applied, ok⟩ := ok_of_bind ok
      obtain ⟨actual, inspected, ok⟩ := ok_of_bind ok
      obtain ⟨same, ok⟩ := ok_of_guard ok
      obtain ⟨⟨⟩, synced, ok⟩ := ok_of_bind ok
      cases ok
      exact ⟨⟨above, there⟩, copy, clone, touched, staged, rfl, cloned, applied, rfl⟩

/-- What a source's restore leaves alone: the places above, and a link that is not in the source. -/
structure Spared (path : Path) (disk next : Disk) : Prop where
  above : next.above = disk.above
  link : ∀ place target, ¬ path <+: place → disk.node place = some (.symlink target) →
    next.node place = some (.symlink target) ∧ next.owner place = disk.owner place

theorem Untouched.spared (untouched : Untouched path disk next) : Spared path disk next := by
  refine ⟨untouched.above, fun place target beyond link => ⟨?_, untouched.owner place beyond⟩⟩
  have other : place ≠ path := by
    rintro rfl
    exact beyond List.prefix_rfl
  rw [untouched.node place other, link]

theorem Touched.spared {last : Disk} (touched : Touched disk next)
    (spared : Spared path next last) : Spared path disk last := by
  refine ⟨spared.above.trans touched.above, fun place target beyond link => ?_⟩
  obtain ⟨node, owner⟩ := spared.link place target beyond (by rw [touched.node, link])
  exact ⟨node, owner.trans (touched.owner place target link)⟩

theorem restoreSource_spared {index : Nat} (named : record.path ≠ [])
    (ok : restoreSource host disk record backup index = .ok next) : Spared record.path disk next := by
  obtain ⟨-, ended⟩ := restoreSource_ok named ok
  cases existed : record.existed with
  | false =>
    rw [existed] at ended
    rw [show next = removePath disk record.path from ended]
    exact removePath_untouched.spared
  | true =>
    rw [existed] at ended
    obtain ⟨copy, clone, touched, staged, -, -, applied, rfl⟩ := ended
    exact (applySourceMetadata_kept applied).touched.spared publish_untouched.spared

/-- What a source must have been for its restore to succeed, and what a link has come to. -/
def Accepts (host : Host) (before disk next : Disk) (path : Path) : Prop :=
  match before.node path with
  | none => Anchored disk path
  | some (.directory _) => True
  | some (.symlink target) => next.node path = some (.symlink target) ∧ next.owner path = host.process
  | some _ => False

theorem restoreSource_accepts {index : Nat} (captured : captureSource host before path = .ok (record, backup))
    (named : path ≠ []) (ok : restoreSource host disk record backup index = .ok next) :
    Accepts host before disk next path := by
  obtain ⟨rfl, rfl, described⟩ := captureSource_ok captured
  obtain ⟨anchored, ended⟩ := restoreSource_ok named ok
  unfold Accepts
  cases stands : before.node record.path with
  | none => exact anchored
  | some node =>
    rw [stands] at described
    have described : Captured host before node record := described
    rw [described.existed, stands] at ended
    obtain ⟨copy, clone, touched, staged, same, cloned, applied, rfl⟩ := ended
    cases same
    rw [described.clones] at cloned
    cases cloned
    obtain ⟨-, staged_node, staged_owner⟩ := applySourceMetadata_kept applied
    cases node with
    | directory children => trivial
    | symlink target =>
      have root := publish_owner touched record.path staged []
      refine ⟨by rw [publish_node, staged_node, Staged.clone], ?_⟩
      rw [List.append_nil] at root
      exact root.trans (staged_owner target rfl)
    | file bytes =>
      obtain ⟨entry, member, root, -⟩ := (described.walks [] .file).mp List.mem_cons_self
      exact applySourceMetadata_file rfl member root _ applied
    | special =>
      have inspects := described.inspects []
      cases inspects

/-! ## Every source in turn -/

/-- What a source's place must show once every restore has succeeded. -/
theorem Accepts.later {last : Disk} (accepts : Accepts host before disk next path)
    (link : ∀ target, next.node path = some (.symlink target) →
      last.node path = some (.symlink target) ∧ last.owner path = next.owner path) :
    Accepts host before disk last path := by
  unfold Accepts at accepts ⊢
  cases stands : before.node path with
  | none =>
    rw [stands] at accepts
    exact accepts
  | some node =>
    rw [stands] at accepts
    cases node with
    | symlink target =>
      obtain ⟨kept, owner⟩ := link target accepts.1
      exact ⟨kept, owner.trans accepts.2⟩
    | _ => exact accepts

theorem Accepts.earlier {last : Disk} (accepts : Accepts host before next last path) (same : next.above = disk.above) :
    Accepts host before disk last path := by
  unfold Accepts at accepts ⊢
  cases stands : before.node path with
  | none =>
    rw [stands] at accepts
    obtain ⟨above, parent⟩ := accepts
    rw [same] at above parent
    exact ⟨above, parent⟩
  | some node =>
    rw [stands] at accepts
    cases node <;> exact accepts

theorem restoreSources_accepts {final : Disk} {index : Nat}
    (captured : List.Forall₂ (fun path kept => captureSource host before path = .ok kept) sources taken)
    (declared : Declared sources) (ok : restoreSources host disk taken index = .ok final) :
    (∀ path ∈ sources, Accepts host before disk final path) ∧
      ∀ place target, (∀ path ∈ sources, ¬ path <+: place) → disk.node place = some (.symlink target) →
        final.node place = some (.symlink target) ∧ final.owner place = disk.owner place := by
  induction captured generalizing disk index with
  | nil =>
    cases ok
    exact ⟨fun _ member => absurd member List.not_mem_nil, fun _ _ _ link => ⟨link, rfl⟩⟩
  | @cons path kept sources taken one more ih =>
    obtain ⟨record, backup⟩ := kept
    obtain ⟨next, step, ok⟩ := ok_of_bind ok
    have named := declared.named path List.mem_cons_self
    have accepts := restoreSource_accepts one named step
    obtain ⟨rfl, -, -⟩ := captureSource_ok one
    have spared := restoreSource_spared named step
    obtain ⟨others, links⟩ := ih declared.rest ok
    have apart : ∀ other ∈ sources, Apart record.path other := (List.pairwise_cons.mp declared.apart).1
    refine ⟨fun other member => ?_, fun place target outside link => ?_⟩
    · rcases List.mem_cons.mp member with rfl | member
      · exact accepts.later fun target => links _ target fun source member => (apart source member).2
      · exact (others other member).earlier spared.above
    · obtain ⟨node, owner⟩ := spared.link place target (outside _ List.mem_cons_self) link
      obtain ⟨kept, same⟩ := links place target (fun source member => outside source (List.mem_cons_of_mem _ member)) node
      exact ⟨kept, same.trans owner⟩

/-! ## The round trip -/

theorem snapshot_ok (ok : snapshot host before sources = .ok taken) :
    List.Forall₂ (fun path kept => captureSource host before path = .ok kept) sources taken ∧
      Snapshot.verify host taken = .ok () := by
  obtain ⟨captured, kept, ok⟩ := ok_of_bind ok
  obtain ⟨⟨⟩, verified, ok⟩ := ok_of_bind ok
  cases ok
  exact ⟨mapM_ok kept, verified⟩

/-- A snapshot is refused only where a source cannot be copied: what it copies passes its own check. -/
theorem snapshot_of_captured (captured : sources.mapM (captureSource host before) = .ok taken) :
    snapshot host before sources = .ok taken := by
  have verified : Snapshot.verify host taken = .ok () := by
    have kept := mapM_ok captured
    clear captured
    induction kept with
    | nil => rfl
    | @cons _ kept _ rest one _ ih =>
      show (verifySource host kept >>= fun _ => Snapshot.verify host rest) = .ok ()
      rw [verifySource_ok one]
      exact ih
  rw [snapshot, captured]
  simp only [bind, Except.bind, verified, pure, Except.pure]

theorem restore_of_snapshot (ok : snapshot host before sources = .ok taken) :
    restore host disk taken = restoreSources host disk taken 0 := by
  rw [restore, (snapshot_ok ok).2]
  rfl

/-- The restore succeeds, and every source is what it was. -/
def RoundTrip (host : Host) (before after : Disk) (sources : List Path) (taken : Snapshot) : Prop :=
  ∃ final, restore host after taken = .ok final ∧ ∀ path ∈ sources, Restored before final path

/-- The restore is a round trip where every source is a directory, or absent beside a parent that is
    there. Where it is one, every source is that, or a link of the process's own. -/
theorem restore_round_trip {after : Disk} {sources : List Path} {taken : Snapshot} (declared : Declared sources)
    (grounded : before.Grounded) (later : Later before after) (accepted : snapshot host before sources = .ok taken) :
    ((∀ path ∈ sources, Restorable before after path) → RoundTrip host before after sources taken) ∧
      (RoundTrip host before after sources taken → ∀ path ∈ sources, Restorable before after path ∨
        ∃ target, before.node path = some (.symlink target) ∧ before.owner path = host.process) := by
  obtain ⟨captured, -⟩ := snapshot_ok accepted
  unfold RoundTrip
  rw [restore_of_snapshot accepted]
  constructor
  · intro restorable
    obtain ⟨final, restored, back, -⟩ := restoreSources_restorable grounded captured declared later restorable 0
    exact ⟨final, restored, back⟩
  · rintro ⟨final, ok, back⟩ path member
    have accepts := (restoreSources_accepts captured declared ok).1 path member
    unfold Accepts at accepts
    unfold Restorable
    cases stands : before.node path with
    | none =>
      rw [stands] at accepts
      exact .inl accepts
    | some node =>
      rw [stands] at accepts
      cases node with
      | directory children => exact .inl trivial
      | symlink target =>
        have root := ((back path member).metadata _ stands [] .symlink List.mem_cons_self).1
        rw [List.append_nil] at root
        exact .inr ⟨target, rfl, root.symm.trans accepts.2⟩
      | file bytes => exact accepts.elim
      | special => exact accepts.elim

/-! ## A disk with one source -/

/-- A process of root's, on a disk without links; the only file's bytes are none. -/
def rootHost : Host where
  process := ⟨0, 0⟩
  pid := 1
  digest := fun _ => "e3b0c44298fc1c149afbf4c8996fb92427ae41e4649b934ca495991b7852b855"
  leads := fun _ _ _ => none
  leads_directory := fun reached => nomatch reached

def homeDisk (node : Option Node) : Disk where
  node := fun path => if path = ["home", "data"] then node else none
  above := fun path => if path = [] ∨ path = ["home"] then .directory else .missing
  mode := fun _ => 0o640#12
  owner := fun _ => ⟨500, 500⟩

theorem homeDisk_declared : Declared [["home", "data"]] :=
  ⟨fun _ member => by rw [List.mem_singleton.mp member]; exact List.cons_ne_nil _ _, List.pairwise_singleton _ _⟩

theorem homeDisk_grounded (node : Option Node) : (homeDisk node).Grounded := by
  intro path found stands
  by_cases here : path = ["home", "data"]
  · subst here
    intro ancestor member
    rcases List.mem_pair.mp (show ancestor ∈ ([[], ["home"]] : List Path) from member) with rfl | rfl
    · rfl
    · rfl
  · have nothing : (homeDisk node).node path = none := if_neg here
    rw [nothing] at stands
    cases stands

theorem homeDisk_later (node other : Option Node) : Later (homeDisk node) (homeDisk other) := fun _ there => there

theorem restore_round_trip_removed :
    ∃ taken, snapshot rootHost (homeDisk (some (.directory [("notes", .file [])]))) [["home", "data"]] = .ok taken ∧
      RoundTrip rootHost (homeDisk (some (.directory [("notes", .file [])]))) (homeDisk none) [["home", "data"]]
        taken := by
  refine ⟨_, snapshot_of_captured rfl, ?_⟩
  refine (restore_round_trip homeDisk_declared (homeDisk_grounded _) (homeDisk_later _ _) (snapshot_of_captured rfl)).1 ?_
  intro path member
  rw [List.mem_singleton.mp member]
  trivial

def fileRecord : SourceRecord :=
  ⟨["home", "data"], true,
    [entryRecord (homeDisk none) ["home", "data"] [] .file 0 (some (rootHost.digest [])) none]⟩

/-- A source that is a regular file, unchanged since its snapshot. -/
theorem file_restore_fails :
    Declared [["home", "data"]] ∧ (homeDisk (some (.file []))).Grounded ∧
      snapshot rootHost (homeDisk (some (.file []))) [["home", "data"]] = .ok [(fileRecord, some (.file []))] ∧
        restore rootHost (homeDisk (some (.file []))) [(fileRecord, some (.file []))] =
          .error (.io "restore data ownership" ["home", ".remagic-schema-restore-1-0"]) := by
  have captured : [["home", "data"]].mapM (captureSource rootHost (homeDisk (some (.file [])))) =
      .ok [(fileRecord, some (.file []))] := by
    show Except.ok [(SourceRecord.mk _ true (List.mergeSort [_] _), some (Node.file []))] = Except.ok _
    rw [List.mergeSort_singleton]
    rfl
  have accepted := snapshot_of_captured captured
  refine ⟨homeDisk_declared, homeDisk_grounded _, accepted, ?_⟩
  rw [restore_of_snapshot accepted]
  rfl

end Remagic.DataSchema
