import Remagic.RestoreRoundTrip
import Remagic.SchemaStore
import Remagic.TaskPromises

/-!
# A schema transaction that stops anywhere

A journal that is not committed names a backup of the data as it was before, and the data
differs from it at the backup's paths only. Without such a journal the data fits the
version that is recorded. A restore, a migrator and a recovery keep this at every step.
-/

namespace Remagic.DataSchema
open Remagic.Package (Path)
open Tasks Job
open Fallible (ok_of_bind)

variable {good : Promise → Prop} {inv : Store → Prop} {s : Store} {source fromVersion : Option Nat}

/-! ## Rules for the steps -/

section Rules
variable {α β : Type} {fail : SchemaError → Store → Prop} {post : α → Store → Prop} {error : SchemaError}
  {run : Store → Store}

/-- Where a job may end with any error. -/
abbrev Stays (good : Promise → Prop) (inv : Store → Prop) (post : α → Store → Prop) (job : Transaction α) (s : Store) :
    Prop :=
  Holds good inv (fun _ _ => True) post job s

theorem stays_throw (stands : inv s) : Stays good inv post (throw error) s := holds_throw stands trivial

theorem holds_edit {post : Unit → Store → Prop} (stands : inv s) (wrong : fail error s) (after : inv (run s))
    (ends : post () (run s)) : Holds good inv fail post (edit error run) s := by
  refine Task.holds_step stands ?_
  intro answer _
  cases answer.fails with
  | true => exact ⟨stands, wrong⟩
  | false => exact ⟨after, ends⟩

theorem stays_edit {post : Unit → Store → Prop} (stands : inv s) (after : inv (run s)) (ends : post () (run s)) :
    Stays good inv post (edit error run) s :=
  holds_edit stands trivial after ends

theorem stays_edit_then {next : Unit → Transaction α} (stands : inv s) (rest : Stays good inv post (next ()) (run s)) :
    Stays good inv post (edit error run >>= next) s :=
  holds_bind (M := fun _ s' => s' = run s) (stays_edit stands rest.start rfl) fun _ _ _ same => same ▸ rest

theorem stays_probe_then {next : Unit → Transaction α} (rest : Stays good inv post (next ()) s) :
    Stays good inv post (probe error >>= next) s :=
  stays_edit_then rest.start rest

theorem stays_look {view : Store → α} (stands : inv s) (ends : post (view s) s) :
    Holds good inv fail post (look view) s :=
  Task.holds_step stands fun _ _ => ⟨stands, ends⟩

theorem stays_look_then {view : Store → β} {next : β → Transaction α} (rest : Holds good inv fail post (next (view s)) s) :
    Holds good inv fail post (look view >>= next) s :=
  holds_bind (M := fun seen s' => seen = view s ∧ s' = s) (stays_look rest.start ⟨rfl, rfl⟩) fun _ _ _ same =>
    same.1 ▸ same.2 ▸ rest

theorem stays_checked {verdict : Except DataSchemaError α} (stands : inv s)
    (ends : ∀ value, verdict = .ok value → post value s) : Stays good inv post (checked verdict) s := by
  cases verdict with
  | error error => exact stays_throw stands
  | ok value => exact holds_pure stands (ends value rfl)

theorem stays_checked_then {verdict : Except DataSchemaError β} {next : β → Transaction α} (stands : inv s)
    (rest : ∀ value, verdict = .ok value → Stays good inv post (next value) s) :
    Stays good inv post (checked verdict >>= next) s :=
  holds_bind (M := fun value s' => verdict = .ok value ∧ s' = s) (stays_checked stands fun _ ok => ⟨ok, rfl⟩)
    fun value _ _ same => same.2 ▸ rest value same.1

theorem stays_guard {condition : Prop} [Decidable condition] {next : Transaction α} (stands : inv s)
    (rest : ¬ condition → Stays good inv post next s) : Stays good inv post (do
      if condition then throw error
      next) s :=
  holds_guard stands (fun _ => trivial) rest

theorem stays_atomicWrite {path : Path} {post : Unit → Store → Prop} (stands : inv s) (after : inv (run s))
    (ends : post () (run s)) : Stays good inv post (atomicWrite path run) s := by
  refine stays_probe_then (stays_probe_then (stays_probe_then (stays_edit_then stands ?_)))
  exact stays_edit after after ends

theorem stays_removeFile {operation : String} {path : Path} {present : Store → Bool} {post : Unit → Store → Prop}
    (stands : inv s) (absent : present s = false → post () s) (after : present s = true → inv (run s) ∧ post () (run s)) :
    Stays good inv post (removeFile operation path present run) s := by
  refine stays_look_then ?_
  by_cases there : present s = true
  · rw [if_pos there]
    obtain ⟨kept, ends⟩ := after there
    exact stays_edit_then stands (stays_edit kept kept ends)
  · rw [if_neg there]
    exact holds_pure stands (absent (by simpa using there))

end Rules

/-! ## A restore -/

section Restore
variable {host : Host} {path : Path} {start s' : Store}

mutual
theorem cloneBackupEntry_same {source : Path} {clone : Node} : ∀ {node : Node},
    cloneBackupEntry source node = .ok clone → clone = node
  | .symlink _, ok => by cases ok; rfl
  | .file _, ok => by cases ok; rfl
  | .special, ok => by cases ok
  | .directory children, ok => by
    obtain ⟨clones, cloned, ok⟩ := ok_of_bind ok
    cases ok
    rw [cloneChildren_same cloned]

theorem cloneChildren_same {source : Path} {clones : List (String × Node)} :
    ∀ {children : List (String × Node)}, cloneChildren source children = .ok clones → clones = children
  | [], ok => by cases ok; rfl
  | (name, child) :: rest, ok => by
    obtain ⟨clone, cloned, ok⟩ := ok_of_bind ok
    obtain ⟨others, more, ok⟩ := ok_of_bind ok
    cases ok
    rw [cloneBackupEntry_same cloned, cloneChildren_same more]
end

/-- Of what stands on the disk, only what is at one path has changed. -/
structure Elsewhere (path : Path) (s s' : Store) : Prop where
  same : s' = { s with disk := s'.disk }
  above : s'.disk.above = s.disk.above
  node : ∀ other, other ≠ path → s'.node other = s.node other

theorem Elsewhere.refl : Elsewhere path s s := ⟨rfl, rfl, fun _ _ => rfl⟩

theorem Elsewhere.disk {disk : Disk} (elsewhere : Elsewhere path start s) (above : disk.above = s.disk.above)
    (node : ∀ other, other ≠ path → disk.node other = s.node other) : Elsewhere path start { s with disk } := by
  refine ⟨?_, above.trans elsewhere.above, fun other apart => (node other apart).trans (elsewhere.node other apart)⟩
  rw [elsewhere.same]

theorem Elsewhere.setNode {node : Option Node} (elsewhere : Elsewhere path start s) :
    Elsewhere path start (s.setNode path node) :=
  elsewhere.disk rfl fun _ apart => Function.update_of_ne apart _ _

theorem setNode_node (node : Option Node) : (s.setNode path node).node path = node := Function.update_self _ _ _

variable (kept : ∀ s', Elsewhere path start s' → inv s')
include kept

theorem removeTree_stays (elsewhere : Elsewhere path start s) :
    Stays good inv (fun _ s' => Elsewhere path start s' ∧ s'.node path = none) (removeTree path) s := by
  refine Task.holds_step (kept s elsewhere) ?_
  intro answer _
  dsimp only
  by_cases absent : (s.node path).isNone = true
  · rw [if_pos absent]
    cases answer.fails with
    | true => exact ⟨kept s elsewhere, trivial⟩
    | false => exact ⟨kept s elsewhere, elsewhere, Option.isNone_iff_eq_none.mp absent⟩
  · rw [if_neg absent]
    cases answer.fails with
    | true => exact ⟨kept _ elsewhere.setNode, trivial⟩
    | false => exact ⟨kept _ elsewhere.setNode, elsewhere.setNode, setNode_node none⟩

theorem stageMetadata_stays {staging : Path} {clone : Node} {entries : List EntryRecord}
    (elsewhere : Elsewhere path start s) :
    Stays good inv (fun staged s' => Elsewhere path start s' ∧ staged.node = clone)
      (stageMetadata host staging clone entries) s := by
  refine Task.holds_step (kept s elsewhere) ?_
  intro answer _
  dsimp only
  cases answer.fails with
  | true => exact ⟨kept s elsewhere, trivial⟩
  | false =>
    cases applied : applySourceMetadata host staging (s.disk, Staged.clone host clone) entries with
    | error error => exact ⟨kept s elsewhere, trivial⟩
    | ok after =>
      obtain ⟨disk, staged⟩ := after
      obtain ⟨touched, node, -⟩ := applySourceMetadata_kept applied
      have moved : Elsewhere path start { s with disk } := elsewhere.disk touched.above fun other _ => congrFun touched.node other
      exact ⟨kept _ moved, moved, node⟩

theorem exchange_stays {live : Option Node} {staged : Staged} (elsewhere : Elsewhere path start s) :
    Stays good inv (fun _ s' => Elsewhere path start s' ∧ s'.node path = some staged.node) (exchange path live staged) s := by
  have published : Elsewhere path start { s with disk := publish s.disk path staged } :=
    elsewhere.disk rfl fun _ apart => Function.update_of_ne apart _ _
  refine holds_bind (M := fun outcome s' => Elsewhere path start s' ∧ (outcome = .ok () → s'.node path = some staged.node))
    ?_ ?_
  · refine holds_outcome (Task.holds_step (kept s elsewhere) ?_)
    intro answer _
    dsimp only
    cases answer.fails with
    | true => exact ⟨kept s elsewhere, elsewhere, fun other => by cases other⟩
    | false => exact ⟨kept _ published, published, fun _ => publish_node staged⟩
  · rintro outcome s _ ⟨elsewhere, ends⟩
    cases outcome with
    | ok _ => exact holds_pure (kept s elsewhere) ⟨elsewhere, ends rfl⟩
    | error error =>
      dsimp only
      by_cases there : live.isSome = true
      · rw [if_pos there]
        refine holds_bind (M := fun _ s' => Elsewhere path start s') ?_ fun _ s _ elsewhere => stays_throw (kept s elsewhere)
        refine holds_outcome (Task.holds_step (kept s elsewhere) ?_)
        intro answer _
        dsimp only
        cases answer.fails with
        | true => exact ⟨kept s elsewhere, elsewhere⟩
        | false => exact ⟨kept _ elsewhere.setNode, elsewhere.setNode⟩
      · rw [if_neg there]
        exact stays_throw (kept s elsewhere)

omit kept in
theorem syncParent_stays {parent : Path} (stands : inv s) :
    Stays good inv (fun _ s' => s' = s) (syncParent parent) s :=
  stays_probe_then (stays_look_then (stays_checked stands fun _ _ => rfl))

/-- The copy stands in its source's place. -/
theorem restoreCopy_stays {source : SourceRecord} {parent : Path} {copy : Node} {index : Nat}
    (at_path : source.path = path) (elsewhere : Elsewhere path start s) :
    Stays good inv (fun _ s' => Elsewhere path start s' ∧ s'.node path = some copy)
      (restoreCopy host source parent copy index) s := by
  subst at_path
  refine stays_probe_then (stays_probe_then (stays_look_then ?_))
  refine stays_guard (kept s elsewhere) fun _ => stays_probe_then ?_
  refine stays_checked_then (kept s elsewhere) ?_
  intro clone cloned
  refine holds_bind (stageMetadata_stays kept elsewhere) ?_
  rintro staged s _ ⟨elsewhere, node⟩
  refine stays_checked_then (kept s elsewhere) ?_
  intro actual _
  refine stays_guard (kept s elsewhere) fun _ => stays_look_then ?_
  have last : ∀ live s, Elsewhere source.path start s →
      Stays good inv (fun _ s' => Elsewhere source.path start s' ∧ s'.node source.path = some copy) (do
        exchange source.path live staged
        syncParent parent
        probe (.io "remove transaction path" parent)) s := by
    intro live s elsewhere
    refine holds_bind (exchange_stays kept elsewhere) ?_
    rintro _ s _ ⟨elsewhere, restored⟩
    refine holds_bind (syncParent_stays (kept s elsewhere)) ?_
    rintro _ _ _ rfl
    rw [node, cloneBackupEntry_same cloned] at restored
    exact stays_edit (kept _ elsewhere) (kept _ elsewhere) ⟨elsewhere, restored⟩
  by_cases there : (s.node source.path).isSome = true
  · rw [if_pos there]
    exact stays_edit_then (kept s elsewhere) (last _ _ elsewhere.setNode)
  · rw [if_neg there]
    exact last _ s elsewhere

/-- A source is put back where its copy is what stood there. -/
theorem restoreStep_stays {source : SourceRecord} {backup was : Option Node} {index : Nat}
    (at_path : source.path = path) (existed : source.existed = was.isSome) (same : backup = was) :
    Stays good inv (fun _ s' => Elsewhere path start s' ∧ s'.node path = was) (restoreStep host source backup index)
      start := by
  subst at_path same
  refine stays_look_then (stays_checked_then (kept start .refl) ?_)
  intro _ _
  cases backup with
  | none =>
    rw [if_pos (by simp [existed])]
    refine holds_bind (removeTree_stays kept .refl) ?_
    rintro _ s _ ⟨elsewhere, absent⟩
    cases parentOf source.path with
    | none => exact holds_pure (kept s elsewhere) ⟨elsewhere, absent⟩
    | some parent =>
      refine Holds.weaken (syncParent_stays (kept s elsewhere)) (fun _ stands => stands) (fun _ _ _ _ => trivial) ?_
      rintro _ _ _ rfl
      exact ⟨elsewhere, absent⟩
  | some copy =>
    rw [if_neg (by simp [existed])]
    cases parentOf source.path with
    | none => exact stays_throw (kept start .refl)
    | some parent => exact restoreCopy_stays kept rfl .refl

end Restore

/-! ## Every source of a backup -/

section Within
variable {host : Host} {paths : List Path} {start : Store} {before : Disk}

/-- Of what stands on the disk, only what is at one of the paths has changed. -/
structure Within (paths : List Path) (s s' : Store) : Prop where
  same : s' = { s with disk := s'.disk }
  above : s'.disk.above = s.disk.above
  node : ∀ path, path ∉ paths → s'.node path = s.node path

theorem Within.refl : Within paths s s := ⟨rfl, rfl, fun _ _ => rfl⟩

theorem Within.elsewhere {path : Path} {s' : Store} (within : Within paths start s) (member : path ∈ paths)
    (elsewhere : Elsewhere path s s') : Within paths start s' := by
  refine ⟨by rw [elsewhere.same, within.same], elsewhere.above.trans within.above, fun other outside => ?_⟩
  rw [elsewhere.node other fun same => outside (same ▸ member), within.node other outside]

theorem captured_existed {path : Path} {record : SourceRecord} {backup : Option Node}
    (captured : captureSource host before path = .ok (record, backup)) : record.existed = (before.node path).isSome := by
  obtain ⟨-, -, described⟩ := captureSource_ok captured
  cases stands : before.node path with
  | none =>
    rw [stands] at described
    exact described
  | some node =>
    rw [stands] at described
    exact described.existed

theorem restoreSteps_stays {sources : List Path} {taken : Snapshot} {index : Nat}
    (captured : List.Forall₂ (fun path kept => captureSource host before path = .ok kept) sources taken)
    (kept : ∀ s', Within paths start s' → inv s') (declared : ∀ path ∈ sources, path ∈ paths)
    (within : Within paths start s) :
    Stays good inv (fun _ s' => Within paths start s' ∧
      ∀ path, path ∈ sources ∨ s.node path = before.node path → s'.node path = before.node path)
      (restoreSteps host taken index) s := by
  induction captured generalizing s index with
  | nil => exact holds_pure (kept s within) ⟨within, fun path back => back.resolve_left List.not_mem_nil⟩
  | @cons path pair sources taken one _ ih =>
    obtain ⟨record, backup⟩ := pair
    obtain ⟨at_path, same, -⟩ := captureSource_ok one
    have member := declared path List.mem_cons_self
    refine holds_bind (restoreStep_stays (fun s' elsewhere => kept s' (within.elsewhere member elsewhere)) at_path
      (captured_existed one) same) ?_
    rintro _ s' _ ⟨elsewhere, restored⟩
    refine Holds.weaken (ih (fun other more => declared other (List.mem_cons_of_mem _ more))
      (within.elsewhere member elsewhere)) (fun _ stands => stands) (fun _ _ _ _ => trivial) ?_
    rintro _ final _ ⟨within, back⟩
    refine ⟨within, fun other known => back other ?_⟩
    by_cases here : other = path
    · rw [here]
      exact .inr restored
    · rw [elsewhere.node other here]
      exact known.imp_left fun listed => (List.mem_cons.mp listed).resolve_left here

end Within

/-! ## What the store keeps -/

section Keeps
variable {host : Host} {Fits : Option Nat → (Path → Option Node) → Prop} {pending : PendingMigration} {before : Disk}
  {manifest : BackupManifest} {s' : Store}

/-- The journal's backup is of data that fits the version it leads from, and so does the data
    once the backup's paths are put back. -/
structure Covered (host : Host) (Fits : Option Nat → (Path → Option Node) → Prop) (pending : PendingMigration)
    (before : Disk) (manifest : BackupManifest) (s : Store) : Prop where
  source : s.version = pending.fromVersion
  backup : s.backups pending.backup = some (.directory (some manifest))
  taken : snapshot host before pending.backupPaths = .ok manifest.taken
  fits : Fits pending.fromVersion before.node
  back : Fits pending.fromVersion (putBack pending.backupPaths before.node s.node)

/-- The fence shows the version that is recorded; the data fits it unless a journal is
    pending that is not committed, and such a journal covers the data. -/
structure Consistent (host : Host) (Fits : Option Nat → (Path → Option Node) → Prop) (s : Store) : Prop where
  fence : ∀ id version, s.ready = some (id, version) → s.version = some version
  settled : (∀ pending, s.pending = some pending → committed pending s.state = true) → Fits s.version s.node
  covered : ∀ pending, s.pending = some pending → committed pending s.state = false →
    ∃ before manifest, Covered host Fits pending before manifest s

/-- A journal is pending that is not committed. -/
structure Underway (host : Host) (Fits : Option Nat → (Path → Option Node) → Prop) (pending : PendingMigration)
    (before : Disk) (manifest : BackupManifest) (s : Store) : Prop where
  journal : s.pending = some pending
  uncommitted : committed pending s.state = false
  fence : ∀ id version, s.ready = some (id, version) → s.version = some version
  covered : Covered host Fits pending before manifest s

theorem Underway.consistent (underway : Underway host Fits pending before manifest s) : Consistent host Fits s := by
  obtain ⟨journal, uncommitted, fence, covered⟩ := underway
  refine ⟨fence, fun settled => ?_, fun other listed _ => ?_⟩
  · rw [settled pending journal] at uncommitted
    cases uncommitted
  · rw [journal] at listed
    cases listed
    exact ⟨before, manifest, covered⟩

theorem Within.putBack {paths : List Path} (within : Within paths s s') (kept : Path → Option Node) :
    putBack paths kept s'.node = putBack paths kept s.node := by
  funext path
  unfold DataSchema.putBack
  split
  · rfl
  next outside => exact within.node path outside

theorem Underway.within (underway : Underway host Fits pending before manifest s)
    (within : Within pending.backupPaths s s') : Underway host Fits pending before manifest s' := by
  obtain ⟨journal, uncommitted, fence, source, backup, taken, fits, back⟩ := underway
  rw [← within.putBack] at back
  have same := within.same
  generalize s'.disk = disk at same
  subst same
  exact ⟨journal, uncommitted, fence, source, backup, taken, fits, back⟩

/-- A migrator has written, as it promises. -/
def Migrated (Fits : Option Nat → (Path → Option Node) → Prop) (source : Option Nat) (paths : List Path) (s s' : Store) : Prop :=
  ∃ data, (Fits source s.node → Fits source (putBack paths s.node data)) ∧
    s' = { s with disk := { s.disk with node := data } }

theorem putBack_same (paths : List Path) (data : Path → Option Node) : putBack paths data data = data := by
  funext path
  simp [putBack]

theorem Migrated.refl {paths : List Path} : Migrated Fits source paths s s :=
  ⟨s.node, fun fits => (putBack_same paths s.node).symm ▸ fits, rfl⟩

theorem Underway.migrated (underway : Underway host Fits pending before manifest s) (unchanged : s.node = before.node)
    (migrated : Migrated Fits pending.fromVersion pending.backupPaths s s') :
    Underway host Fits pending before manifest s' := by
  obtain ⟨journal, uncommitted, fence, source, backup, taken, fits, -⟩ := underway
  obtain ⟨data, promised, rfl⟩ := migrated
  rw [unchanged] at promised
  exact ⟨journal, uncommitted, fence, source, backup, taken, fits, promised fits⟩

end Keeps

/-! ## The schema's own files -/

section Files
variable {state : SchemaStateStore} {version : Nat}

theorem clearPending_stays (stands : inv s) (after : inv { s with pending := none }) :
    Stays good inv (fun _ s' => s' = { s with pending := none }) state.clearPending s := by
  refine stays_removeFile stands (fun absent => ?_) fun _ => ⟨after, rfl⟩
  rw [← Option.not_isSome_iff_eq_none.mp (by simp [absent] : ¬ s.pending.isSome = true)]

theorem clearReady_stays (stands : inv s) (after : inv { s with ready := none }) :
    Stays good inv (fun _ s' => s' = { s with ready := none }) state.clearReady s := by
  refine stays_removeFile stands (fun absent => ?_) fun _ => ⟨after, rfl⟩
  rw [← Option.not_isSome_iff_eq_none.mp (by simp [absent] : ¬ s.ready.isSome = true)]

theorem publishReady_stays (stands : inv s) (after : inv { s with ready := some (state.appId, version) }) :
    Stays good inv (fun _ s' => s' = { s with ready := some (state.appId, version) }) (state.publishReady version) s :=
  stays_guard stands fun _ => stays_atomicWrite stands after rfl

theorem publishPending_stays {pending : PendingMigration} (stands : inv s)
    (after : inv { s with pending := some pending }) :
    Stays good inv (fun _ s' => s' = { s with pending := some pending }) (state.publishPending pending) s :=
  stays_guard stands fun _ => stays_atomicWrite stands after rfl

/-- Where the fence shows after a restore the version of the data. -/
def sourceReady (appId : AppId) (version : Option Nat) : Option (AppId × Nat) := version.map fun number => (appId, number)

theorem publishSourceReady_stays (stands : inv s) (after : inv { s with ready := sourceReady state.appId source }) :
    Stays good inv (fun _ s' => s' = { s with ready := sourceReady state.appId source })
      (publishSourceReady state source) s := by
  cases source with
  | none => exact clearReady_stays stands after
  | some version => exact publishReady_stays stands after

theorem publish_stays {applied : AppliedSchema} {found : Path → Option Node} (stands : inv s)
    (after : good (.applied fromVersion applied.version found s.node) → inv { s with state := some applied }) :
    Stays good inv (fun _ s' => s' = { s with state := some applied } ∧
      good (.applied fromVersion applied.version found s.node)) (state.publish applied fromVersion found) s := by
  refine stays_guard stands fun _ => stays_probe_then (stays_probe_then (stays_probe_then ?_))
  refine holds_bind (M := fun _ s' => s' = { s with state := some applied } ∧
    good (.applied fromVersion applied.version found s.node)) (Task.holds_step stands ?_) ?_
  · intro answer promised
    cases fails : answer.fails with
    | true =>
      simp only [if_true]
      exact ⟨stands, trivial⟩
    | false =>
      simp only [fails, Bool.false_eq_true, if_false, Option.some.injEq, forall_eq'] at promised ⊢
      exact ⟨after promised, trivial, promised⟩
  · rintro _ _ stands ⟨rfl, promised⟩
    exact stays_edit stands stands ⟨rfl, promised⟩

theorem read_stays (stands : inv s) :
    Stays good inv (fun applied s' => s' = s ∧ applied = s.state) state.read s := by
  refine stays_probe_then (stays_look_then ?_)
  cases recorded : s.state with
  | none => exact holds_pure stands ⟨rfl, rfl⟩
  | some applied => exact stays_guard stands fun _ => holds_pure stands ⟨rfl, rfl⟩

theorem readPending_stays (stands : inv s) :
    Stays good inv (fun pending s' => s' = s ∧ pending = s.pending) state.readPending s := by
  refine stays_probe_then (stays_look_then ?_)
  cases recorded : s.pending with
  | none => exact holds_pure stands ⟨rfl, rfl⟩
  | some pending => exact stays_guard stands fun _ => holds_pure stands ⟨rfl, rfl⟩

theorem tryLock_stays (stands : inv s) : Stays good inv (fun _ s' => s' = s) state.tryLock s := by
  refine stays_probe_then (Task.holds_step stands ?_)
  intro answer _
  dsimp only
  cases answer.fails <;> cases answer.busy <;> exact ⟨stands, by simp⟩

end Files

/-! ## Backups -/

section Backups
variable {host : Host} {backups : BackupStore} {name : String} {loaded : LoadedBackup}

theorem load_stays {found : Option BackupManifest} (stands : inv s) :
    Stays good inv (fun loaded s' => s' = s ∧ loaded.name = name ∧ found = some loaded.manifest)
      (LoadedBackup.load backups name found) s := by
  refine stays_probe_then ?_
  cases found with
  | none => exact stays_throw stands
  | some manifest => exact stays_guard stands fun _ => holds_pure stands ⟨rfl, rfl, rfl⟩

theorem loadNamed_stays (stands : inv s) :
    Stays good inv (fun loaded s' => s' = s ∧ loaded.name = name ∧
      s.backups name = some (.directory (some loaded.manifest))) (backups.loadNamed name) s := by
  refine stays_guard stands fun _ => stays_probe_then (stays_look_then ?_)
  cases there : s.backups name with
  | none => exact stays_throw stands
  | some entry =>
    cases entry with
    | other => exact stays_throw stands
    | directory found =>
      refine Holds.weaken (load_stays stands) (fun _ stands => stands) (fun _ _ _ _ => trivial) ?_
      rintro loaded _ _ ⟨rfl, rfl, rfl⟩
      exact ⟨rfl, rfl, rfl⟩

theorem validateIdentity_stays {toVersion : Nat} {sources : List Path} (stands : inv s) :
    Stays good inv (fun _ s' => s' = s) (loaded.validateIdentity fromVersion toVersion sources) s := by
  refine stays_guard stands fun _ => ?_
  exact holds_pure stands rfl

theorem verify_stays (stands : inv s) : Stays good inv (fun _ s' => s' = s) (loaded.verify host backups) s :=
  stays_probe_then (stays_checked stands fun _ _ => rfl)

theorem retire_stays (stands : inv s) (after : ∀ kept, inv { s with backups := kept }) :
    Stays good inv (fun _ s' => ∃ kept, s' = { s with backups := kept }) (loaded.retire backups) s :=
  stays_probe_then (stays_edit_then stands (stays_edit (after _) (after _) ⟨_, rfl⟩))

theorem removeOrphanTransaction_stays {toVersion : Nat} (stands : ∀ kept, inv { s with backups := kept }) :
    Stays good inv (fun _ s' => ∃ kept, s' = { s with backups := kept })
      (backups.removeOrphanTransaction host name fromVersion toVersion) s := by
  refine stays_probe_then (stays_look_then ?_)
  cases s.backups name with
  | none => exact holds_pure (stands s.backups) ⟨s.backups, rfl⟩
  | some entry =>
    cases entry with
    | other => exact stays_throw (stands s.backups)
    | directory found =>
      refine holds_bind (load_stays (stands s.backups)) ?_
      rintro loaded _ _ ⟨rfl, -, -⟩
      refine stays_guard (stands _) fun _ => holds_bind (verify_stays (stands _)) ?_
      rintro _ _ _ rfl
      exact retire_stays (stands _) stands

/-- The snapshot that is published is of the data as it is. -/
theorem snapshot_stays {toVersion : Nat} {sources : List Path} (stands : ∀ kept, inv { s with backups := kept }) :
    Stays good inv (fun loaded s' => (∃ kept, s' = { s with backups := kept }) ∧
      s'.backups loaded.name = some (.directory (some loaded.manifest)) ∧
      snapshot host s.disk sources = .ok loaded.manifest.taken)
      (backups.snapshot host fromVersion toVersion sources) s := by
  refine stays_probe_then (holds_bind (removeOrphanTransaction_stays stands) ?_)
  rintro _ _ _ ⟨kept, rfl⟩
  refine stays_probe_then (stays_look_then (stays_checked_then (stands kept) ?_))
  intro taken took
  refine stays_probe_then (stays_probe_then (stays_edit_then (stands kept) (stays_probe_then ?_)))
  refine Holds.weaken (load_stays (stands _)) (fun _ stands => stands) (fun _ _ _ _ => trivial) ?_
  rintro ⟨name, manifest⟩ _ _ ⟨rfl, named, same⟩
  cases named
  cases same
  exact ⟨⟨_, rfl⟩, Function.update_self _ _ _, took⟩

end Backups

/-! ## An attempt -/

section Attempt
variable {host : Host} {Fits : Option Nat → (Path → Option Node) → Prop} {least marker : Option Nat}
  {state : SchemaStateStore} {backups : BackupStore} {loaded : LoadedBackup} {pending : PendingMigration} {before : Disk}
  {manifest : BackupManifest}

/-- The recorded version has not gone down. -/
def Advanced (least now : Option Nat) : Prop :=
  ∀ version, least = some version → ∃ later, now = some later ∧ version ≤ later

/-- Data that fitted the version before fits the one that is recorded, and what a migrator has
    written does no harm to it once the declared paths are put back. -/
def Promise.Sound (Fits : Option Nat → (Path → Option Node) → Prop) : Promise → Prop
  | .applied source target found left => Fits source found → Fits (some target) left
  | .migrated source paths found left => Fits source found → Fits source (putBack paths found left)

/-- What stands at every point of an attempt, until it publishes that it is complete. -/
structure Along (host : Host) (Fits : Option Nat → (Path → Option Node) → Prop) (least marker : Option Nat) (s : Store) :
    Prop where
  consistent : Consistent host Fits s
  advanced : Advanced least s.version
  marked : s.complete = marker

/-- Without a journal, the backups may be any. -/
theorem Along.otherBackups (along : Along host Fits least marker s) (idle : s.pending = none)
    (kept : String → Option BackupEntry) : Along host Fits least marker { s with backups := kept } := by
  obtain ⟨⟨fence, settled, -⟩, advanced, marked⟩ := along
  refine ⟨⟨fence, settled, fun pending listed => ?_⟩, advanced, marked⟩
  rw [idle] at listed
  cases listed

theorem Along.unready (along : Along host Fits least marker s) : Along host Fits least marker { s with ready := none } := by
  obtain ⟨⟨-, settled, covered⟩, advanced, marked⟩ := along
  refine ⟨⟨fun _ _ shown => (by cases shown), settled, fun pending listed active => ?_⟩, advanced, marked⟩
  obtain ⟨before, manifest, source, backup, taken, fits, back⟩ := covered pending listed active
  exact ⟨before, manifest, source, backup, taken, fits, back⟩

/-- The fence may show the version that is recorded. -/
theorem Along.ready (along : Along host Fits least marker s) {id : AppId} {version : Nat}
    (recorded : s.version = some version) : Along host Fits least marker { s with ready := some (id, version) } := by
  obtain ⟨⟨-, settled, covered⟩, advanced, marked⟩ := along
  refine ⟨⟨fun _ _ shown => (by cases shown; exact recorded), settled, fun pending listed active => ?_⟩, advanced, marked⟩
  obtain ⟨before, manifest, source, backup, taken, fits, back⟩ := covered pending listed active
  exact ⟨before, manifest, source, backup, taken, fits, back⟩

theorem Along.sourceReady (along : Along host Fits least marker s) {id : AppId} (recorded : s.version = source) :
    Along host Fits least marker { s with ready := sourceReady id source } := by
  cases source with
  | none => exact along.unready
  | some version => exact along.ready recorded

/-- Where the data fits the recorded version, the journal may go. -/
theorem Along.cleared (along : Along host Fits least marker s) (fits : Fits s.version s.node) :
    Along host Fits least marker { s with pending := none } := by
  obtain ⟨⟨fence, -, -⟩, advanced, marked⟩ := along
  exact ⟨⟨fence, fun _ => fits, fun _ listed => by cases listed⟩, advanced, marked⟩

theorem Underway.along (underway : Underway host Fits pending before manifest s) (advanced : Advanced least s.version)
    (marked : s.complete = marker) : Along host Fits least marker s :=
  ⟨underway.consistent, advanced, marked⟩

theorem Underway.alongWithin {s' : Store} (underway : Underway host Fits pending before manifest s)
    (along : Along host Fits least marker s) (within : Within pending.backupPaths s s') :
    Along host Fits least marker s' := by
  refine (underway.within within).along ?_ ?_
  · rw [within.same]
    exact along.advanced
  · rw [within.same]
    exact along.marked

/-- A backup that is restored brings the data back. -/
theorem restore_stays (underway : Underway host Fits pending before manifest s) (along : Along host Fits least marker s)
    (same : loaded.manifest = manifest) :
    Stays good (Along host Fits least marker) (fun _ s' => Within pending.backupPaths s s' ∧
        s'.node = putBack pending.backupPaths before.node s.node) (loaded.restore host backups) s := by
  subst same
  refine holds_bind (verify_stays along) ?_
  rintro _ _ _ rfl
  have covered := underway.covered
  refine Holds.weaken (restoreSteps_stays (snapshot_ok covered.taken).1 (fun _ within => underway.alongWithin along within)
    (fun _ member => member) .refl) (fun _ stands => stands) (fun _ _ _ _ => trivial) ?_
  rintro _ restored _ ⟨within, back⟩
  refine ⟨within, funext fun path => ?_⟩
  unfold putBack
  split
  next listed => exact back path (.inl listed)
  next outside => exact within.node path outside

theorem rollBack_stays (along : Along host Fits least marker s) (recorded : s.version = source)
    (fits : Fits s.version s.node) :
    Stays good (Along host Fits least marker) (fun _ s' => s'.pending = none ∧ s'.state = s.state)
      (rollBack state backups loaded source) s := by
  refine holds_bind (publishSourceReady_stays along (along.sourceReady recorded)) ?_
  rintro _ _ along rfl
  refine holds_bind (clearPending_stays along (along.cleared fits)) ?_
  rintro _ _ along rfl
  refine Holds.weaken (retire_stays along (along.otherBackups rfl)) (fun _ stands => stands) (fun _ _ _ _ => trivial) ?_
  rintro _ _ _ ⟨kept, rfl⟩
  exact ⟨rfl, rfl⟩

theorem rejectRecursiveBackup_stays {stateRoot : Path} {paths : List Path} (stands : inv s) :
    Stays good inv (fun _ s' => s' = s) (rejectRecursiveBackup stateRoot paths) s := by
  unfold rejectRecursiveBackup
  split
  · exact stays_throw stands
  · exact holds_pure stands rfl

theorem committed_version {applied : Option AppliedSchema} (done : committed pending applied = true) :
    applied.map AppliedSchema.version = some pending.toVersion := by
  cases applied with
  | none => cases done
  | some current =>
    simp only [committed, Option.any_some, Bool.and_eq_true, decide_eq_true_eq] at done
    rw [Option.map_some, done.1]

theorem sourceIsCurrent_version {applied : Option AppliedSchema} (current : sourceIsCurrent pending applied = true) :
    applied.map AppliedSchema.version = pending.fromVersion := by
  unfold sourceIsCurrent at current
  cases source : pending.fromVersion <;> cases applied <;> simp_all

/-- A recovery leaves no journal, and the version as it was. -/
theorem recoverPending_stays {stateRoot : Path} (along : Along host Fits least marker s) :
    Stays good (Along host Fits least marker) (fun _ s' => s'.pending = none ∧ s'.state = s.state)
      (recoverPending host state backups s.state stateRoot) s := by
  refine holds_bind (readPending_stays along) ?_
  rintro _ s along ⟨rfl, rfl⟩
  cases listed : s.pending with
  | none => exact holds_pure along ⟨listed, rfl⟩
  | some pending =>
    refine holds_bind (rejectRecursiveBackup_stays along) ?_
    rintro _ _ along rfl
    refine holds_bind (loadNamed_stays along) ?_
    rintro loaded s along ⟨rfl, -, stored⟩
    refine holds_bind (validateIdentity_stays along) ?_
    rintro _ _ along rfl
    refine holds_bind (verify_stays along) ?_
    rintro _ s along rfl
    cases done : committed pending s.state with
    | true =>
      rw [if_pos rfl]
      have fits := along.consistent.settled fun other same => by
        rw [listed] at same
        cases same
        exact done
      refine holds_bind (publishReady_stays along (along.ready (committed_version done))) ?_
      rintro _ _ along rfl
      refine Holds.weaken (clearPending_stays along (along.cleared fits)) (fun _ stands => stands)
        (fun _ _ _ _ => trivial) ?_
      rintro _ _ _ rfl
      exact ⟨rfl, rfl⟩
    | false =>
      rw [if_neg Bool.false_ne_true]
      refine stays_guard along fun current => ?_
      have recorded := sourceIsCurrent_version (by simpa using current)
      obtain ⟨before, manifest, covered⟩ := along.consistent.covered pending listed done
      have same : loaded.manifest = manifest := by
        have both := covered.backup.symm.trans stored
        cases both
        rfl
      have underway : Underway host Fits pending before manifest s := ⟨listed, done, along.consistent.fence, covered⟩
      refine holds_bind (restore_stays underway along same) ?_
      rintro _ restored along ⟨within, node⟩
      have version : restored.version = pending.fromVersion := by
        rw [within.same]
        exact recorded
      refine Holds.weaken (rollBack_stays along version (by rw [version, node]; exact covered.back))
        (fun _ stands => stands) (fun _ _ _ _ => trivial) ?_
      rintro _ final _ ⟨idle, kept⟩
      refine ⟨idle, kept.trans ?_⟩
      rw [within.same]

/-- A migrator writes as it promises, however it ends. -/
theorem runMigrator_holds {migrator : Path} {schema : Schema}
    (kept : ∀ s', Migrated Fits source schema.backupPaths s s' → inv s') :
    Holds (Promise.Sound Fits) inv (fun _ s' => Migrated Fits source schema.backupPaths s s')
      (fun _ s' => Migrated Fits source schema.backupPaths s s') (runMigrator migrator schema source) s := by
  have stands := kept s .refl
  refine holds_bind (M := fun _ s' => s' = s) (holds_edit stands .refl stands rfl) ?_
  rintro _ s stands rfl
  refine holds_bind (M := fun _ s' => s' = s) (holds_edit stands .refl stands rfl) ?_
  rintro _ s stands rfl
  refine holds_bind (M := fun _ s' => Migrated Fits source schema.backupPaths s s') (Task.holds_step stands ?_) ?_
  · intro answer promised
    have migrated : Migrated Fits source schema.backupPaths s { s with disk := { s.disk with node := answer.written } } :=
      ⟨answer.written, promised _ rfl, rfl⟩
    exact ⟨kept _ migrated, migrated⟩
  · rintro _ s' stands migrated
    refine Task.holds_step stands ?_
    intro answer _
    dsimp only
    cases answer.exit <;> exact ⟨stands, migrated⟩

/-- Where a migrator failed, the attempt fails. -/
theorem abandon_stays {migration : SchemaError} (underway : Underway host Fits pending before manifest s)
    (along : Along host Fits least marker s) (same : loaded.manifest = manifest) :
    Stays good (Along host Fits least marker) (fun _ _ => False)
      (abandon host state backups loaded pending.fromVersion migration) s := by
  refine holds_bind (M := fun outcome s' => outcome = .ok () → Within pending.backupPaths s s' ∧
    s'.node = putBack pending.backupPaths before.node s.node) (holds_outcome ?_) ?_
  · exact Holds.weaken (restore_stays underway along same) (fun _ stands => stands)
      (fun _ _ _ _ wrong => by cases wrong) fun _ _ _ restored _ => restored
  · rintro outcome restored along back
    cases outcome with
    | error _ => exact stays_throw along
    | ok _ =>
      obtain ⟨within, node⟩ := back rfl
      have version : restored.version = pending.fromVersion := by
        rw [within.same]
        exact underway.covered.source
      refine holds_bind (M := fun _ _ => True) (holds_outcome ?_) ?_
      · exact Holds.weaken (rollBack_stays along version (by rw [version, node]; exact underway.covered.back))
          (fun _ stands => stands) (fun _ _ _ _ => trivial) fun _ _ _ _ => trivial
      · rintro outcome s along _
        cases outcome <;> exact stays_throw along

/-- What an attempt that succeeds leaves. -/
structure Finished (id : AppId) (target : Nat) (s : Store) : Prop where
  version : s.version = some target
  ready : s.ready = some (id, target)
  idle : s.pending = none

theorem Advanced.step {now : Option Nat} {next : Nat} (advanced : Advanced least now)
    (up : ∀ version, now = some version → version < next) : Advanced least (some next) := by
  intro version floor
  obtain ⟨later, here, above⟩ := advanced version floor
  exact ⟨next, rfl, le_trans above (up later here).le⟩

/-- The migrator ran, or there is none: the version is recorded, and the journal goes. -/
theorem commit_stays (state : SchemaStateStore) (backups : BackupStore) (schema : Schema)
    (leads : pending.fromVersion = source) (underway : Underway host Fits pending before manifest s)
    (along : Along host Fits least marker s) (same : loaded.manifest = manifest) (unready : s.ready = none)
    (unchanged : s.node = before.node) (named : loaded.name = pending.backup)
    (target : pending.toVersion = schema.version) (paths : pending.backupPaths = schema.backupPaths)
    (fits : Fits source s.node) (up : ∀ version, source = some version → version < schema.version) :
    Stays (Promise.Sound Fits) (Along host Fits least marker) (fun _ s' => Finished state.appId schema.version s')
      (commit host state backups schema loaded source) s := by
  subst leads
  refine stays_look_then ?_
  have along' : ∀ s', Migrated Fits pending.fromVersion pending.backupPaths s s' → Along host Fits least marker s' := by
    intro s' migrated
    refine (underway.migrated unchanged migrated).along ?_ ?_
    · obtain ⟨data, -, rfl⟩ := migrated
      exact along.advanced
    · obtain ⟨data, -, rfl⟩ := migrated
      exact along.marked
  have recording : ∀ s', Migrated Fits pending.fromVersion pending.backupPaths s s' →
      Stays (Promise.Sound Fits) (Along host Fits least marker) (fun _ s' => Finished state.appId schema.version s') (do
        state.publish ⟨1, state.appId, schema.version, loaded.name⟩ pending.fromVersion s.node
        state.publishReady schema.version
        state.clearPending) s' := by
    intro s' migrated
    have here := along' s' migrated
    have shown : s'.ready = none := by
      obtain ⟨data, -, rfl⟩ := migrated
      exact unready
    have advanced : Advanced least (some schema.version) :=
      along.advanced.step fun version now => up version (underway.covered.source.symm.trans now)
    have done : committed pending (some ⟨1, state.appId, schema.version, loaded.name⟩) = true := by
      simp [committed, target, named]
    have recorded : Promise.Sound Fits (.applied pending.fromVersion schema.version s.node s'.node) →
        Along host Fits least marker { s' with state := some ⟨1, state.appId, schema.version, loaded.name⟩ } := by
      intro sound
      refine ⟨⟨fun _ _ fence => ?_, fun _ => sound fits, fun other listed open_ => ?_⟩, advanced, here.marked⟩
      · rw [shown] at fence
        cases fence
      · have journal := (underway.migrated unchanged migrated).journal
        have both := journal.symm.trans listed
        cases both
        rw [done] at open_
        cases open_
    refine holds_bind (publish_stays here recorded) ?_
    rintro _ _ along ⟨rfl, sound⟩
    refine holds_bind (publishReady_stays along (along.ready rfl)) ?_
    rintro _ _ along rfl
    refine Holds.weaken (clearPending_stays along (along.cleared (sound fits))) (fun _ stands => stands)
      (fun _ _ _ _ => trivial) ?_
    rintro _ _ _ rfl
    exact ⟨rfl, rfl, rfl⟩
  cases schema.migrator with
  | none => exact recording s .refl
  | some migrator =>
    refine holds_bind (M := fun _ s' => Migrated Fits pending.fromVersion pending.backupPaths s s') (holds_outcome ?_) ?_
    · rw [paths] at along' ⊢
      exact runMigrator_holds along'
    · rintro outcome s' here migrated
      cases outcome with
      | ok _ => exact recording s' migrated
      | error migration =>
        exact holds_bind (abandon_stays (underway.migrated unchanged migrated) here same) fun _ _ _ never => never.elim

theorem Along.prepared (along : Along host Fits least marker s) (generation : Option Nat) :
    Along host Fits least marker { s with prepared := generation } := by
  obtain ⟨⟨fence, settled, covered⟩, advanced, marked⟩ := along
  refine ⟨⟨fence, settled, fun pending listed active => ?_⟩, advanced, marked⟩
  obtain ⟨before, manifest, source, backup, taken, fits, back⟩ := covered pending listed active
  exact ⟨before, manifest, source, backup, taken, fits, back⟩

theorem Underway.prepared (underway : Underway host Fits pending before manifest s) (generation : Option Nat) :
    Underway host Fits pending before manifest { s with prepared := generation } := by
  obtain ⟨journal, uncommitted, fence, source, backup, taken, fits, back⟩ := underway
  exact ⟨journal, uncommitted, fence, source, backup, taken, fits, back⟩

/-- From one version to the next. -/
theorem migrate_stays (state : SchemaStateStore) {schema : Schema} {phases : SchemaPhases}
    (along : Along host Fits least marker s) (idle : s.pending = none) (recorded : s.version = source)
    (up : ∀ version, source = some version → version < schema.version) :
    Stays (Promise.Sound Fits) (Along host Fits least marker) (fun _ s' => Finished state.appId schema.version s')
      (migrate host state backups schema phases source) s := by
  refine holds_bind (snapshot_stays (along.otherBackups idle)) ?_
  rintro loaded _ along ⟨⟨kept, rfl⟩, stored, taken⟩
  refine holds_bind (clearReady_stays along along.unready) ?_
  rintro _ _ along rfl
  have fits : Fits source s.node := by
    rw [← recorded]
    exact along.consistent.settled fun _ listed => by
      rw [idle] at listed
      cases listed
  have uncommitted : committed ⟨1, state.appId, source, schema.version, loaded.name, schema.backupPaths⟩ s.state = false := by
    rw [← Bool.not_eq_true]
    intro done
    exact absurd (up schema.version (recorded.symm.trans (committed_version done))) (Nat.lt_irrefl _)
  have underway : Underway host Fits ⟨1, state.appId, source, schema.version, loaded.name, schema.backupPaths⟩ s.disk
      loaded.manifest { s with
        backups := kept
        ready := none
        pending := some ⟨1, state.appId, source, schema.version, loaded.name, schema.backupPaths⟩ } :=
    ⟨rfl, uncommitted, fun _ _ shown => (by cases shown), recorded, stored, taken, fits,
      (putBack_same schema.backupPaths s.node).symm ▸ fits⟩
  refine holds_bind (publishPending_stays along (underway.along along.advanced along.marked)) ?_
  rintro _ _ along rfl
  have prepared := underway.prepared (some phases.generation)
  refine holds_bind (M := fun _ s' => s' = { s with
    backups := kept
    ready := none
    pending := some ⟨1, state.appId, source, schema.version, loaded.name, schema.backupPaths⟩
    prepared := some phases.generation }) (stays_atomicWrite along (along.prepared _) rfl) ?_
  rintro _ _ along rfl
  exact commit_stays state backups schema rfl prepared along rfl rfl rfl rfl rfl rfl fits up

theorem open_stays {root : Path} {appId : AppId} (stands : inv s) :
    Stays good inv (fun state s' => s' = s ∧ state = ⟨root, appId⟩) (SchemaStateStore.open root appId) s :=
  stays_probe_then (stays_probe_then (holds_pure stands ⟨rfl, rfl⟩))

/-- Wherever an attempt stops, the store is consistent; where it succeeds, the version is the
    manifest's, and the fence shows it. -/
theorem applyAtWithPhases_stays {manifest : AppManifest} {schema : Schema} {stateRoot : Path} {phases : SchemaPhases}
    (along : Along host Fits least marker s) :
    Stays (Promise.Sound Fits) (Along host Fits least marker) (fun _ s' => Finished manifest.id schema.version s')
      (applyAtWithPhases host manifest schema stateRoot phases) s := by
  refine holds_bind (rejectRecursiveBackup_stays along) ?_
  rintro _ _ along rfl
  refine holds_bind (open_stays along) ?_
  rintro _ _ along ⟨rfl, rfl⟩
  refine holds_bind (tryLock_stays along) ?_
  rintro _ _ along rfl
  refine holds_bind (read_stays along) ?_
  rintro _ s along ⟨rfl, rfl⟩
  refine holds_bind (recoverPending_stays along) ?_
  rintro _ s' along ⟨idle, same⟩
  rw [← same]
  cases recorded : s'.state with
  | none =>
    have version : s'.version = none := by rw [Store.version, recorded]; rfl
    exact migrate_stays ⟨stateRoot, manifest.id⟩ along idle version fun _ other => by cases other
  | some current =>
    have version : s'.version = some current.version := by rw [Store.version, recorded]; rfl
    by_cases already : current.version = schema.version
    · rw [already] at version
      simp only [already, if_true]
      refine holds_bind (publishReady_stays along (along.ready version)) ?_
      rintro _ _ along rfl
      exact stays_atomicWrite along (along.prepared _) ⟨version, rfl, idle⟩
    · simp only [already, if_false]
      refine stays_guard along fun higher => ?_
      refine migrate_stays ⟨stateRoot, manifest.id⟩ along idle version ?_
      rintro number same
      cases same
      exact lt_of_le_of_ne (not_lt.mp higher) already

end Attempt

end Remagic.DataSchema
