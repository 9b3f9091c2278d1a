import Remagic.SchemaRuns

/-!
# A restore that is interrupted

Step by step, an undisturbed restore does what the restore as a whole does. One that was
interrupted anywhere can be done again, and brings the same data back.
-/

namespace Remagic.DataSchema
open Remagic.Package (Path)
open Tasks Job

variable {host : Host} {s : Store}

/-! ## Undisturbed steps -/

section Steps
variable {α β : Type} {post : Except SchemaError α → Store → Prop} {error : SchemaError} {calm : Answer}

theorem ends_edit {post : Except SchemaError Unit → Store → Prop} {run : Store → Store} (undisturbed : calm.fails = false)
    (ends : post (.ok ()) (run s)) : Ends calm post (edit error run) s := by
  refine Task.ends_step ?_
  simp only [undisturbed, Bool.false_eq_true, if_false]
  exact ends

theorem ends_edit_then {run : Store → Store} {next : Unit → Transaction α} (undisturbed : calm.fails = false)
    (rest : Ends calm post (next ()) (run s)) : Ends calm post (edit error run >>= next) s := by
  exact ends_bind (ends_edit undisturbed rest)

theorem ends_probe_then {next : Unit → Transaction α} (undisturbed : calm.fails = false)
    (rest : Ends calm post (next ()) s) : Ends calm post (probe error >>= next) s :=
  ends_edit_then undisturbed rest

theorem ends_look_then {view : Store → β} {next : β → Transaction α} (rest : Ends calm post (next (view s)) s) :
    Ends calm post (look view >>= next) s :=
  ends_bind (Task.ends_step rest)

end Steps

/-- What the restore as a whole says is what the steps come to. -/
def Reports (verdict : Except DataSchemaError Disk) (s : Store) : Except SchemaError Unit → Store → Prop
  | .ok (), s' => ∃ disk, verdict = .ok disk ∧ s' = { s with disk }
  | .error error, _ => ∃ reason, verdict = .error reason ∧ error = .data reason

section Source
variable {calm : Answer} (undisturbed : calm.fails = false) {α : Type} {start : Store}

theorem reports_checked {verdict : Except DataSchemaError α} {rest : α → Except DataSchemaError Disk}
    {next : α → Transaction Unit}
    (follows : ∀ value, verdict = .ok value → Ends calm (Reports (rest value) start) (next value) s) :
    Ends calm (Reports (verdict >>= rest) start) (checked verdict >>= next) s := by
  cases verdict with
  | error reason => exact ⟨reason, rfl, rfl⟩
  | ok value => exact follows value rfl

/-- A check that both make. -/
theorem reports_guard {condition : Prop} [Decidable condition] {reason : DataSchemaError}
    {rest : Except DataSchemaError Disk} {next : Transaction Unit}
    (follows : ¬ condition → Ends calm (Reports rest start) next s) :
    Ends calm (Reports (do
      if condition then throw reason
      rest) start) (do
      if condition then throw (.data reason)
      next) s := by
  by_cases holds : condition
  · simp only [holds, if_true]
    exact ⟨reason, rfl, rfl⟩
  · simp only [holds, if_false]
    exact follows holds

include undisturbed

theorem reports_stage {staging : Path} {clone : Node} {entries : List EntryRecord}
    {rest : Disk × Staged → Except DataSchemaError Disk} {next : Staged → Transaction Unit}
    (follows : ∀ disk staged,
      applySourceMetadata host staging (s.disk, Staged.clone host clone) entries = .ok (disk, staged) →
      Ends calm (Reports (rest (disk, staged)) start) (next staged) { s with disk }) :
    Ends calm (Reports (applySourceMetadata host staging (s.disk, Staged.clone host clone) entries >>= rest) start)
      (stageMetadata host staging clone entries >>= next) s := by
  refine ends_bind (Task.ends_step ?_)
  simp only [undisturbed, Bool.false_eq_true, if_false]
  cases applied : applySourceMetadata host staging (s.disk, Staged.clone host clone) entries with
  | error reason => exact ⟨reason, rfl, rfl⟩
  | ok after => exact follows after.1 after.2 applied

theorem removeTree_ends {path : Path} :
    Ends calm (fun result s' => result = .ok () ∧ s' = { s with disk := removePath s.disk path }) (removeTree path) s := by
  refine Task.ends_step ?_
  simp only [undisturbed, Bool.false_eq_true, if_false]
  split
  · rename_i absent
    have same : removePath s.disk path = s.disk := by
      rw [removePath, ← Option.isNone_iff_eq_none.mp absent]
      exact congrArg (fun node => { s.disk with node }) (Function.update_eq_self path s.disk.node)
    exact ⟨rfl, by rw [same]⟩
  · exact ⟨rfl, rfl⟩

theorem exchange_ends {path : Path} {live : Option Node} {staged : Staged} :
    Ends calm (fun result s' => result = .ok () ∧ s' = { s with disk := publish s.disk path staged })
      (exchange path live staged) s := by
  refine ends_bind (ends_outcome (Task.ends_step ?_))
  simp only [undisturbed, Bool.false_eq_true, if_false]
  exact ⟨rfl, rfl⟩

/-- The renames, once the staged clone is as it should be: the data that was there is moved aside. -/
theorem swap_ends {path parent : Path} {staged : Staged} {live : Option Node} {disk : Disk} (node : Option Node)
    (there : disk.above parent ≠ .missing) (same : s = { start with disk := s.disk })
    (moved : s.disk = { disk with node := Function.update disk.node path node }) :
    Ends calm (Reports (.ok (publish disk path staged)) start) (do
      exchange path live staged
      syncParent parent
      probe (.io "remove transaction path" parent)) s := by
  have published : publish s.disk path staged = publish disk path staged := by
    rw [moved]
    simp only [publish, Function.update_idem]
  refine ends_bind (Ends.weaken (exchange_ends undisturbed) ?_)
  rintro _ _ ⟨rfl, rfl⟩
  dsimp only
  rw [published]
  have synced : syncDirectory (publish disk path staged) parent = .ok () := sync_iff.mpr there
  refine ends_bind (ends_probe_then undisturbed (ends_look_then ?_))
  dsimp only
  rw [synced]
  refine ends_pure (ends_edit undisturbed ?_)
  exact ⟨publish disk path staged, rfl, by rw [same]⟩

theorem restoreCopy_ends {source : SourceRecord} {parent : Path} {copy : Node} {index : Nat}
    (existed : source.existed = true) (above : parentOf source.path = some parent)
    (clear : rejectSymlinkAncestors s.disk source.path = .ok ()) :
    Ends calm (Reports (DataSchema.restoreSource host s.disk source (some copy) index) s)
      (restoreCopy host source parent copy index) s := by
  have whole : DataSchema.restoreSource host s.disk source (some copy) index = (do
      if s.disk.above parent = .missing then throw (.io "create restored object" (stagingPath host parent index))
      let clone ← cloneBackupEntry source.path copy
      let applied ← applySourceMetadata host (stagingPath host parent index) (s.disk, Staged.clone host clone)
        source.entries
      let actual ← inspectTree host (stagingPath host parent index) applied.2.node
      if actual ≠ contentRecords source.entries then
        throw (.invalidBackup ("restored data failed verification: " ++ Package.Path.display source.path))
      syncDirectory applied.1 parent
      pure (publish applied.1 source.path applied.2)) := by
    unfold DataSchema.restoreSource
    rw [clear, existed, above]
    rfl
  rw [whole]
  refine ends_probe_then undisturbed (ends_probe_then undisturbed (ends_look_then ?_))
  refine reports_guard fun there => ends_probe_then undisturbed ?_
  refine reports_checked fun clone _ => reports_stage undisturbed fun disk staged applied => ?_
  refine reports_checked fun actual _ => reports_guard fun _ => ends_look_then ?_
  have same : disk.above = s.disk.above := (applySourceMetadata_kept applied).touched.above
  have parented : disk.above parent ≠ .missing := by rwa [same]
  rw [sync_iff.mpr parented]
  by_cases live : (Store.node { s with disk } source.path).isSome = true
  · rw [if_pos live]
    exact ends_edit_then undisturbed (swap_ends undisturbed none parented rfl rfl)
  · rw [if_neg live]
    refine swap_ends undisturbed (disk.node source.path) parented rfl ?_
    rw [Function.update_eq_self]

/-- One source, step by step. -/
theorem restoreStep_ends (source : SourceRecord) (backup : Option Node) (index : Nat) :
    Ends calm (Reports (DataSchema.restoreSource host s.disk source backup index) s)
      (restoreStep host source backup index) s := by
  refine ends_look_then ?_
  cases clear : rejectSymlinkAncestors s.disk source.path with
  | error reason =>
    refine ⟨reason, ?_, rfl⟩
    unfold DataSchema.restoreSource
    rw [clear]
    rfl
  | ok _ =>
    refine ends_bind (ends_pure ?_)
    cases existed : source.existed with
    | false =>
      have whole : DataSchema.restoreSource host s.disk source backup index =
          (parentOf source.path).elim (pure (removePath s.disk source.path)) fun parent =>
            syncDirectory (removePath s.disk source.path) parent >>= fun _ => pure (removePath s.disk source.path) := by
        unfold DataSchema.restoreSource
        rw [clear, existed]
        cases parentOf source.path with
        | none => rfl
        | some parent => rfl
      rw [whole]
      refine ends_bind (Ends.weaken (removeTree_ends undisturbed) ?_)
      rintro _ _ ⟨rfl, rfl⟩
      cases parentOf source.path with
      | none => exact ⟨_, rfl, rfl⟩
      | some parent =>
        refine ends_probe_then undisturbed (ends_look_then ?_)
        simp only [Option.elim_some]
        cases syncDirectory (removePath s.disk source.path) parent with
        | error reason => exact ⟨reason, rfl, rfl⟩
        | ok _ => exact ⟨_, rfl, rfl⟩
    | true =>
      cases above : parentOf source.path with
      | none =>
        refine ⟨.invalidBackup ("backup source has no parent: " ++ Package.Path.display source.path), ?_, rfl⟩
        unfold DataSchema.restoreSource
        rw [clear, existed, above]
        rfl
      | some parent =>
        cases backup with
        | none =>
          refine ⟨.io "inspect backup for restore" source.path, ?_, rfl⟩
          unfold DataSchema.restoreSource
          rw [clear, existed, above]
          rfl
        | some copy => exact restoreCopy_ends undisturbed existed above clear

/-- The restore as a whole, step by step. -/
theorem restoreSteps_ends (taken : Snapshot) (index : Nat) :
    Ends calm (Reports (restoreSources host s.disk taken index) s) (restoreSteps host taken index) s := by
  induction taken generalizing s index with
  | nil => exact ⟨s.disk, rfl, rfl⟩
  | cons pair rest ih =>
    obtain ⟨source, backup⟩ := pair
    refine ends_bind (Ends.weaken (restoreStep_ends undisturbed source backup index) ?_)
    rintro (error | _) s' reports
    · obtain ⟨reason, failed, same⟩ := reports
      refine ⟨reason, ?_, same⟩
      rw [restoreSources, failed]
      rfl
    · obtain ⟨disk, restored, rfl⟩ := reports
      have whole : restoreSources host s.disk ((source, backup) :: rest) index = restoreSources host disk rest (index + 1) := by
        rw [restoreSources, restored]
        rfl
      rw [whole]
      refine Ends.weaken (ih (index + 1)) ?_
      rintro (error | _) _ reports
      · exact reports
      · obtain ⟨last, ended, rfl⟩ := reports
        exact ⟨last, ended, rfl⟩

theorem restore_ends (backups : BackupStore) (loaded : LoadedBackup) :
    Ends calm (Reports (DataSchema.restore host s.disk loaded.manifest.taken) s) (loaded.restore host backups) s := by
  refine ends_bind (ends_probe_then undisturbed ?_)
  unfold DataSchema.restore
  cases Snapshot.verify host loaded.manifest.taken with
  | error reason => exact ⟨reason, rfl, rfl⟩
  | ok _ => exact restoreSteps_ends undisturbed loaded.manifest.taken 0

end Source

/-! ## Refinement, and repetition -/

def paperclipId : AppId := ⟨"paperclip", by decide⟩

/-- The backup of data that was absent. -/
def absentBackup : LoadedBackup where
  name := "from-new-to-2"
  manifest := ⟨1, paperclipId, none, 2, [(⟨["home", "data"], false, []⟩, none)]⟩

def strayStore : Store := { disk := homeDisk (some (.directory [])) }

section Theorems
variable {before : Disk} {sources : List Path} {loaded : LoadedBackup} {calm : Answer}

/-- Every run of the steps that nothing disturbs and that has answers enough ends, and it ends
    as the restore as a whole does: with its disk, or with its error. -/
theorem restore_refines (host : Host) (backups : BackupStore) (loaded : LoadedBackup) (s : Store)
    (undisturbed : calm.fails = false) :
    ∃ count result, ∀ more,
      (trace (loaded.restore host backups) (List.replicate (count + more) calm) s).result = some result ∧
        Reports (DataSchema.restore host s.disk loaded.manifest.taken) s result
          (trace (loaded.restore host backups) (List.replicate (count + more) calm) s).state :=
  (restore_ends undisturbed backups loaded).sound

theorem restore_refines_absent :
    ∃ count result, ∀ more,
      (trace (absentBackup.restore rootHost ⟨[], absentBackup.manifest.appId⟩) (List.replicate (count + more) {})
        strayStore).result = some result ∧
        Reports (DataSchema.restore rootHost strayStore.disk absentBackup.manifest.taken) strayStore result
          (trace (absentBackup.restore rootHost ⟨[], absentBackup.manifest.appId⟩) (List.replicate (count + more) {})
            strayStore).state :=
  restore_refines rootHost ⟨[], absentBackup.manifest.appId⟩ absentBackup strayStore rfl

/-- Wherever a restore stops, what is above the sources is as it was. -/
theorem restore_above (backups : BackupStore) (s : Store) (taken : snapshot host before sources = .ok loaded.manifest.taken)
    (answers : List Answer) : (trace (loaded.restore host backups) answers s).state.disk.above = s.disk.above := by
  have stays : Stays (fun _ => True) (fun s' => s'.disk.above = s.disk.above) (fun _ _ => True)
      (loaded.restore host backups) s := by
    refine holds_bind (verify_stays rfl) ?_
    rintro _ _ _ rfl
    exact Holds.weaken (restoreSteps_stays (snapshot_ok taken).1 (fun _ within => within.above) (fun _ member => member)
      .refl) (fun _ stands => stands) (fun _ _ _ _ => trivial) fun _ _ _ _ => trivial
  exact stays.stands fun _ _ => trivial

/-- A restore that was interrupted anywhere can be done again: undisturbed, it succeeds, and
    every source is what it was when the snapshot was taken. -/
theorem restore_again (backups : BackupStore) (declared : Declared sources) (grounded : before.Grounded)
    (taken : snapshot host before sources = .ok loaded.manifest.taken) (later : Later before s.disk)
    (restorable : ∀ path ∈ sources, Restorable before s.disk path) (undisturbed : calm.fails = false)
    (answers : List Answer) :
    ∃ count, ∀ more,
      let interrupted := (trace (loaded.restore host backups) answers s).state
      let again := trace (loaded.restore host backups) (List.replicate (count + more) calm) interrupted
      again.result = some (.ok ()) ∧ ∀ path ∈ sources, Restored before again.state.disk path := by
  have above := restore_above backups s taken answers
  generalize (trace (loaded.restore host backups) answers s).state = interrupted at above
  obtain ⟨count, result, finished⟩ := restore_refines host backups loaded interrupted undisturbed
  have after : Later before interrupted.disk := fun place there => above ▸ later place there
  obtain ⟨final, restored, back, -⟩ := restoreSources_restorable grounded (snapshot_ok taken).1 declared after
    (fun path member => (restorable path member).later above) 0
  refine ⟨count, fun more => ?_⟩
  obtain ⟨ended, reports⟩ := finished more
  rw [restore_of_snapshot taken, restored] at reports
  rcases result with error | _
  · obtain ⟨_, never, -⟩ := reports
    cases never
  · obtain ⟨disk, same, state⟩ := reports
    cases same
    exact ⟨ended, by rwa [state]⟩

/-- A removal that was interrupted. -/
theorem restore_again_absent :
    ∃ count, ∀ more,
      let interrupted := (trace (absentBackup.restore rootHost ⟨[], absentBackup.manifest.appId⟩)
        [{}, {}, { fails := true }] strayStore).state
      let again := trace (absentBackup.restore rootHost ⟨[], absentBackup.manifest.appId⟩)
        (List.replicate (count + more) {}) interrupted
      again.result = some (.ok ()) ∧ ∀ path ∈ [["home", "data"]], Restored (homeDisk none) again.state.disk path := by
  refine restore_again _ homeDisk_declared (homeDisk_grounded none) rfl (homeDisk_later _ _) ?_ rfl _
  intro path member
  rw [List.mem_singleton.mp member]
  refine ⟨?_, by decide⟩
  intro ancestor member
  rcases List.mem_pair.mp (show ancestor ∈ ([[], ["home"]] : List Path) from member) with rfl | rfl
  · decide
  · decide

end Theorems

end Remagic.DataSchema
