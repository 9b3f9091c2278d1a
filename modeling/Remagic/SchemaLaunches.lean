import Remagic.SchemaRuns

/-!
# Launches, and who writes an application's data

The daemon stops an application's background agent before a cold launch, removes the
phases of earlier launches, and lets the runner bring the data to the manifest's schema.
The application then runs if that succeeded. The agent comes back where the launch's own
completion is shown, or where its unit finds the fence of its version and no journal. An
agent that the daemon manages itself it also starts at its own start, at a reload and where
a launch is refused, and looks at no fence then.
-/

namespace Remagic.DataSchema
open Remagic.Package (Path)
open Tasks Job

/-! ## The daemon's side -/

/-- `clear_phase_markers`. -/
def clearPhaseMarkers (store : Store) : Store := { store with prepared := none, complete := none }

/-- `phase_matches`: a phase of another generation is refused, as one that is absent. -/
def phaseMatches (shown : Option Nat) (generation : Nat) : Bool := shown = some generation

def backgroundRestoreIsSafe (quiesced : Bool) (generation : Nat) (store : Store) : Bool :=
  !quiesced || phaseMatches store.complete generation

/-- The conditions of an agent's unit: no journal, and the fence of its application and version. -/
def unitConditions (id : AppId) (version : Nat) (store : Store) : Bool :=
  store.pending.isNone && store.ready = some (id, version)

/-- The launch that is the last: its manifest's version, and its generation. -/
structure LaunchContext where
  version : Nat
  generation : Option Nat

/-- The data and the schema's files, and the versions of the processes that may write the data. -/
structure System where
  store : Store
  application : Option Nat := none
  agent : Option Nat := none
  context : Option LaunchContext := none

inductive Event where
  /-- A cold launch, whose runner is told some answers and is stopped where they end. -/
  | launch (manifest : AppManifest) (schema : Schema) (plan : ExecutionPlan) (answers : List Answer)
  /-- The daemon starts the quiesced agent again, after the launch or its rollback. -/
  | restoreAgent
  | startUnit (id : AppId) (version : Nat)
  /-- `ensure_background_service` for an agent that is managed, and is of this version. -/
  | startManaged (version : Nat)
  | write (data : Path → Option Node)
  | exit
  -- the daemon's own start, which follows, starts the managed agent again
  | reboot

namespace System
variable (host : Host) (system : System)

/-- The version that the writers are of. -/
def writer : Option Nat := system.application.or system.agent

/-- What the runner does in a launch, once the daemon has stopped the agent and removed the phases. -/
def launchTrace (manifest : AppManifest) (schema : Schema) (plan : ExecutionPlan) (answers : List Answer) :
    Trace Store Promise (Except SchemaError Unit) :=
  Job.trace (apply host { manifest with dataSchema := some schema } plan) answers (clearPhaseMarkers system.store)

def launch (manifest : AppManifest) (schema : Schema) (plan : ExecutionPlan) (answers : List Answer) : System where
  store := (system.launchTrace host manifest schema plan answers).state
  application := match (system.launchTrace host manifest schema plan answers).result with
    | some (.ok ()) => some schema.version
    | _ => none
  context := some ⟨schema.version, plan.generation⟩

def restoreAgent : System :=
  match system.context with
  | none => system
  | some context =>
    if context.generation.any fun generation => backgroundRestoreIsSafe true generation system.store then
      { system with agent := some context.version }
    else system

def startUnit (id : AppId) (version : Nat) : System :=
  if unitConditions id version system.store then { system with agent := some version } else system

def startManaged (version : Nat) : System := { system with agent := some version }

def write (data : Path → Option Node) : System :=
  if system.writer.isSome then
    { system with store := { system.store with disk := { system.store.disk with node := data } } }
  else system

end System

def Event.run (host : Host) (system : System) : Event → System
  | .launch manifest schema plan answers => system.launch host manifest schema plan answers
  | .restoreAgent => system.restoreAgent
  | .startUnit id version => system.startUnit id version
  | .startManaged version => system.startManaged version
  | .write data => system.write data
  | .exit => { system with application := none }
  | .reboot => { store := clearPhaseMarkers system.store }

/-- What an event promises of the data: a migration brings it to its version, and a writer
    keeps it fit for its own. -/
def Event.promises (host : Host) (system : System) : Event → List Promise
  | .launch manifest schema plan answers => (system.launchTrace host manifest schema plan answers).left
  | .write data => system.writer.toList.map fun version => .applied (some version) version system.store.node data
  | _ => []

/-- A managed agent is started where its version is recorded and no journal is pending. -/
def Event.fenced (system : System) : Event → Prop
  | .startManaged version => system.store.version = some version ∧ system.store.pending = none
  | _ => True

def runEvents (host : Host) : List Event → System → System
  | [], system => system
  | event :: rest, system => runEvents host rest (event.run host system)

def runPromises (host : Host) : List Event → System → List Promise
  | [], _ => []
  | event :: rest, system => event.promises host system ++ runPromises host rest (event.run host system)

def runFenced (host : Host) : List Event → System → Prop
  | [], _ => True
  | event :: rest, system => event.fenced system ∧ runFenced host rest (event.run host system)

/-! ## One launch -/

section Launch
variable {host : Host} {Fits : Option Nat → (Path → Option Node) → Prop} {least : Option Nat} {s : Store}
  {schema : Schema} {plan : ExecutionPlan}

/-- What stands at every point of a launch: it is complete only once it is finished. -/
structure Launching (host : Host) (Fits : Option Nat → (Path → Option Node) → Prop) (least : Option Nat) (id : AppId)
    (target : Nat) (s : Store) : Prop where
  consistent : Consistent host Fits s
  advanced : Advanced least s.version
  complete : s.complete = none ∨ Finished id target s

theorem resolved_stays {good : Promise → Prop} {inv : Store → Prop} (stands : inv s) :
    Stays good inv (fun _ s' => s' = s) (resolved plan) s := by
  unfold resolved
  cases plan.launchEnvironment with
  | none => exact stays_throw stands
  | some checked =>
    cases checked with
    | error text => exact stays_throw stands
    | ok directories => exact holds_pure stands rfl

theorem Consistent.marked (consistent : Consistent host Fits s) (prepared complete : Option Nat) :
    Consistent host Fits { s with prepared, complete } := by
  obtain ⟨fence, settled, covered⟩ := consistent
  refine ⟨fence, settled, fun pending listed active => ?_⟩
  obtain ⟨before, manifest, source, backup, taken, fits, back⟩ := covered pending listed active
  exact ⟨before, manifest, source, backup, taken, fits, back⟩

/-- The runner's whole part of a launch. -/
theorem apply_stays (manifest : AppManifest) (plan : ExecutionPlan) (declares : manifest.dataSchema = some schema)
    (consistent : Consistent host Fits s) (advanced : Advanced least s.version) (cleared : s.complete = none) :
    Stays (Promise.Sound Fits) (Launching host Fits least manifest.id schema.version)
      (fun _ s' => Finished manifest.id schema.version s' ∧ s'.complete = plan.generation) (apply host manifest plan) s := by
  have stands : Launching host Fits least manifest.id schema.version s := ⟨consistent, advanced, .inl cleared⟩
  unfold apply
  rw [declares]
  dsimp only
  refine stays_guard stands fun _ => holds_bind (resolved_stays stands) ?_
  rintro directories _ _ rfl
  cases numbered : plan.generation.filter (· ≠ 0) with
  | none => exact stays_throw stands
  | some generation =>
    have given : plan.generation = some generation := (Option.filter_eq_some_iff.mp numbered).1
    refine holds_bind (M := fun _ s' => Finished manifest.id schema.version s') ?_ ?_
    · exact Holds.weaken (applyAtWithPhases_stays ⟨consistent, advanced, cleared⟩)
        (fun _ along => ⟨along.consistent, along.advanced, .inl along.marked⟩) (fun _ _ _ _ => trivial)
        fun _ _ _ finished => finished
    · rintro _ s' launching finished
      have after : Finished manifest.id schema.version { s' with complete := some generation } :=
        ⟨finished.version, finished.ready, finished.idle⟩
      refine stays_atomicWrite launching ⟨?_, launching.advanced, .inr after⟩ ⟨after, given.symm⟩
      exact launching.consistent.marked s'.prepared (some generation)

end Launch

/-! ## Runs of launches and writers -/

section Runs
variable {host : Host} {Fits : Option Nat → (Path → Option Node) → Prop} {least : Option Nat} {store : Store}
  {system : System} {event : Event} {events : List Event}

/-- The store is consistent, and no process that may write is of another version than the one
    that is recorded, or has a journal beside it. -/
structure Guarded (host : Host) (Fits : Option Nat → (Path → Option Node) → Prop) (least : Option Nat)
    (system : System) : Prop where
  consistent : Consistent host Fits system.store
  advanced : Advanced least system.store.version
  application : ∀ version, system.application = some version →
    system.store.version = some version ∧ system.store.pending = none
  agent : ∀ version, system.agent = some version → system.store.version = some version ∧ system.store.pending = none
  complete : ∀ version generation, system.context = some ⟨version, some generation⟩ →
    system.store.complete = some generation → system.store.version = some version ∧ system.store.pending = none

theorem Guarded.writer (guarded : Guarded host Fits least system) {version : Nat} (writes : system.writer = some version) :
    system.store.version = some version ∧ system.store.pending = none := by
  rcases Option.or_eq_some_iff.mp writes with application | ⟨-, agent⟩
  · exact guarded.application version application
  · exact guarded.agent version agent

theorem Consistent.fits_of_idle (consistent : Consistent host Fits store) (idle : store.pending = none) :
    Fits store.version store.node :=
  consistent.settled fun _ listed => by
    rw [idle] at listed
    cases listed

/-- A writer keeps the data fit. -/
theorem Consistent.written (consistent : Consistent host Fits store) (idle : store.pending = none)
    {data : Path → Option Node} (fits : Fits store.version data) :
    Consistent host Fits { store with disk := { store.disk with node := data } } := by
  refine ⟨consistent.fence, fun _ => fits, fun pending listed _ => ?_⟩
  rw [idle] at listed
  cases listed

theorem Guarded.launch (guarded : Guarded host Fits least system) {manifest : AppManifest} {schema : Schema}
    {plan : ExecutionPlan} {answers : List Answer}
    (promised : ∀ promise ∈ (system.launchTrace host manifest schema plan answers).left, promise.Sound Fits) :
    Guarded host Fits least (system.launch host manifest schema plan answers) := by
  have stays := apply_stays { manifest with dataSchema := some schema } plan rfl (guarded.consistent.marked none none)
    guarded.advanced rfl
  obtain ⟨consistent, advanced, complete⟩ := stays.stands promised
  refine ⟨consistent, advanced, fun version runs => ?_, fun version other => (by cases other), fun version generation last
    shown => ?_⟩
  · dsimp only [System.launch] at runs
    split at runs
    · rename_i ended
      cases runs
      obtain ⟨finished, -⟩ := stays.ends promised ended
      exact ⟨finished.version, finished.idle⟩
    · cases runs
  · simp only [System.launch, Option.some.injEq, LaunchContext.mk.injEq] at last
    obtain ⟨rfl, -⟩ := last
    rcases complete with absent | finished
    · rw [System.launch] at shown
      cases absent.symm.trans shown
    · exact ⟨finished.version, finished.idle⟩

theorem Guarded.restoreAgent (guarded : Guarded host Fits least system) : Guarded host Fits least system.restoreAgent := by
  unfold System.restoreAgent
  cases last : system.context with
  | none => exact guarded
  | some context =>
    dsimp only
    split
    · rename_i safe
      obtain ⟨version, generation⟩ := context
      obtain ⟨number, same, shown⟩ := (Option.any_eq_true _ _).mp safe
      cases same
      simp only [backgroundRestoreIsSafe, Bool.not_true, Bool.false_or, phaseMatches, decide_eq_true_eq] at shown
      refine ⟨guarded.consistent, guarded.advanced, guarded.application, ?_, ?_⟩
      · rintro _ ⟨⟩
        exact guarded.complete version number last shown
      · exact fun other generation same => guarded.complete other generation (last.trans same)
    · exact guarded

theorem Guarded.startUnit (guarded : Guarded host Fits least system) (id : AppId) (version : Nat) :
    Guarded host Fits least (system.startUnit id version) := by
  unfold System.startUnit
  split
  · rename_i holds
    simp only [unitConditions, Bool.and_eq_true, Option.isNone_iff_eq_none, decide_eq_true_eq] at holds
    refine ⟨guarded.consistent, guarded.advanced, guarded.application, ?_, guarded.complete⟩
    rintro _ ⟨⟩
    exact ⟨guarded.consistent.fence id version holds.2, holds.1⟩
  · exact guarded

theorem Guarded.write (guarded : Guarded host Fits least system) {data : Path → Option Node}
    (promised : ∀ version, system.writer = some version →
      Promise.Sound Fits (.applied (some version) version system.store.node data)) :
    Guarded host Fits least (system.write data) := by
  unfold System.write
  cases writes : system.writer with
  | none => exact guarded
  | some version =>
    obtain ⟨recorded, idle⟩ := guarded.writer writes
    have before := guarded.consistent.fits_of_idle idle
    rw [recorded] at before
    have fits : Fits system.store.version data := recorded.symm ▸ promised version writes before
    exact ⟨guarded.consistent.written idle fits, guarded.advanced, guarded.application, guarded.agent, guarded.complete⟩

/-- What one event keeps. -/
theorem Guarded.step (guarded : Guarded host Fits least system)
    (promised : ∀ promise ∈ event.promises host system, promise.Sound Fits) (fenced : event.fenced system) :
    Guarded host Fits least (event.run host system) := by
  cases event with
  | launch manifest schema plan answers => exact guarded.launch promised
  | restoreAgent => exact guarded.restoreAgent
  | startUnit id version => exact guarded.startUnit id version
  | startManaged version =>
    refine ⟨guarded.consistent, guarded.advanced, guarded.application, ?_, guarded.complete⟩
    rintro _ ⟨⟩
    exact fenced
  | write data =>
    refine guarded.write fun version writes => promised _ ?_
    rw [Event.promises, writes]
    exact List.mem_singleton_self _
  | exit =>
    obtain ⟨consistent, advanced, -, agent, complete⟩ := guarded
    exact ⟨consistent, advanced, fun _ other => (by cases other), agent, complete⟩
  | reboot =>
    refine ⟨guarded.consistent.marked none none, guarded.advanced, ?_, ?_, ?_⟩
    · rintro _ ⟨⟩
    · rintro _ ⟨⟩
    · rintro _ _ ⟨⟩

theorem Guarded.run (guarded : Guarded host Fits least system)
    (promised : ∀ promise ∈ runPromises host events system, promise.Sound Fits) (fenced : runFenced host events system) :
    Guarded host Fits least (runEvents host events system) := by
  induction events generalizing system with
  | nil => exact guarded
  | cons event rest ih =>
    refine ih (guarded.step (fun promise member => promised promise (List.mem_append_left _ member)) fenced.1) ?_ fenced.2
    exact fun promise member => promised promise (List.mem_append_right _ member)

theorem Consistent.guarded (consistent : Consistent host Fits store) : Guarded host Fits store.version { store } := by
  refine ⟨consistent, fun version recorded => ⟨version, recorded, le_rfl⟩, ?_, ?_, ?_⟩
  · rintro _ ⟨⟩
  · rintro _ ⟨⟩
  · rintro _ _ ⟨⟩

/-- What the schema's own files keep to, whoever writes the data. -/
structure Filed (host : Host) (least : Option Nat) (system : System) : Prop where
  consistent : Consistent host (fun _ _ => True) system.store
  advanced : Advanced least system.store.version

theorem Consistent.anyData (consistent : Consistent host (fun _ _ => True) store) (data : Path → Option Node) :
    Consistent host (fun _ _ => True) { store with disk := { store.disk with node := data } } := by
  obtain ⟨fence, -, covered⟩ := consistent
  refine ⟨fence, fun _ => trivial, fun pending listed active => ?_⟩
  obtain ⟨before, manifest, source, backup, taken, -, -⟩ := covered pending listed active
  exact ⟨before, manifest, source, backup, taken, trivial, trivial⟩

theorem promise_any (promise : Promise) : promise.Sound fun _ _ => True := by
  cases promise <;> exact fun _ => trivial

theorem Filed.step (filed : Filed host least system) (event : Event) :
    Filed host least (event.run host system) := by
  cases event with
  | launch manifest schema plan answers =>
    have stays := apply_stays { manifest with dataSchema := some schema } plan rfl (filed.consistent.marked none none)
      filed.advanced rfl
    obtain ⟨consistent, advanced, -⟩ := stays.stands fun promise _ => promise_any promise
    exact ⟨consistent, advanced⟩
  | restoreAgent =>
    have same : system.restoreAgent.store = system.store := by
      unfold System.restoreAgent
      split
      · rfl
      · split <;> rfl
    exact ⟨same ▸ filed.consistent, same ▸ filed.advanced⟩
  | startUnit id version =>
    have same : (system.startUnit id version).store = system.store := by
      unfold System.startUnit
      split <;> rfl
    exact ⟨same ▸ filed.consistent, same ▸ filed.advanced⟩
  | startManaged version => exact ⟨filed.consistent, filed.advanced⟩
  | write data =>
    show Filed host least (system.write data)
    unfold System.write
    split
    · exact ⟨filed.consistent.anyData data, filed.advanced⟩
    · exact filed
  | exit => exact ⟨filed.consistent, filed.advanced⟩
  | reboot => exact ⟨filed.consistent.marked none none, filed.advanced⟩

theorem Filed.run (filed : Filed host least system) (events : List Event) :
    Filed host least (runEvents host events system) := by
  induction events generalizing system with
  | nil => exact filed
  | cons event rest ih => exact ih (filed.step event)

/-- The floor is the version that is reached. -/
theorem Consistent.filed (consistent : Consistent host (fun _ _ => True) system.store) :
    Filed host system.store.version system :=
  ⟨consistent, fun version recorded => ⟨version, recorded, le_rfl⟩⟩

/-- Data that fits, without any of the schema's files. -/
theorem Consistent.fresh {disk : Disk} (fits : Fits none disk.node) : Consistent host Fits { disk } := by
  refine ⟨?_, fun _ => fits, ?_⟩
  · rintro _ _ ⟨⟩
  · rintro _ ⟨⟩

end Runs

/-! ## A first launch -/

def magicId : AppId := ⟨"magicbook", by decide⟩

def magicManifest : AppManifest := ⟨2, magicId, none⟩

def magicSchema : Schema where
  version := 2
  migrator := some ["opt", "migrate"]
  backupPaths := [["home", "data"]]

def magicPlan : ExecutionPlan where
  launchEnvironment := some (.ok ⟨["home", "state"], ["run", "magic"]⟩)
  generation := some 7

def emptyStore : Store := { disk := homeDisk none }

/-- Every step succeeds, and the migrator makes a directory. -/
def calmAnswer : Answer where
  written := fun _ => some (.directory [])

/-- The application is launched, and ends, and the daemon has its agent run. -/
def firstLaunch : List Event :=
  [.launch magicManifest magicSchema magicPlan (List.replicate 80 calmAnswer), .exit, .startManaged 2]

/-- Before version 2 there is no data, and since then a directory. -/
def directoryFits (version : Option Nat) (data : Path → Option Node) : Prop :=
  data ["home", "data"] = version.map fun _ => .directory []

theorem emptyStore_consistent : Consistent rootHost directoryFits emptyStore := Consistent.fresh rfl

theorem firstLaunch_promised : ∀ promise ∈ runPromises rootHost firstLaunch { store := emptyStore },
    promise.Sound directoryFits := by
  intro promise member
  have promises : runPromises rootHost firstLaunch { store := emptyStore } =
      [.migrated none [["home", "data"]] (homeDisk none).node calmAnswer.written,
        .applied none 2 (homeDisk none).node calmAnswer.written] := rfl
  rw [promises] at member
  rcases List.mem_pair.mp member with rfl | rfl
  · exact fun _ => rfl
  · exact fun _ => rfl

theorem firstLaunch_fenced : runFenced rootHost firstLaunch { store := emptyStore } := ⟨trivial, trivial, ⟨rfl, rfl⟩, trivial⟩

/-! ## What every run keeps -/

section Theorems
variable {host : Host} {Fits : Option Nat → (Path → Option Node) → Prop} {store : Store} {events : List Event}

/-- Wherever the launches stop: without a journal the data fits the version that is recorded,
    and a journal that is not committed has a backup of data that fits it, and of all that has
    to be put back for the data to fit it again. -/
theorem runEvents_consistent (consistent : Consistent host Fits store)
    (promised : ∀ promise ∈ runPromises host events { store }, promise.Sound Fits)
    (fenced : runFenced host events { store }) : Consistent host Fits (runEvents host events { store }).store :=
  (consistent.guarded.run promised fenced).consistent

theorem runEvents_consistent_first :
    Consistent rootHost directoryFits (runEvents rootHost firstLaunch { store := emptyStore }).store :=
  runEvents_consistent emptyStore_consistent firstLaunch_promised firstLaunch_fenced

theorem Consistent.filed_run (consistent : Consistent host (fun _ _ => True) store) (events : List Event) :
    Filed host store.version (runEvents host events { store }) := by
  have filed : Filed host store.version { store } := ⟨consistent, fun version recorded => ⟨version, recorded, le_rfl⟩⟩
  exact filed.run events

/-- Nothing is asked of a migrator for the version not to go down. -/
theorem runEvents_advanced (consistent : Consistent host (fun _ _ => True) store) (later : List Event) :
    Advanced (runEvents host events { store }).store.version
      (runEvents host later (runEvents host events { store })).store.version := by
  have reached : Filed host store.version (runEvents host events { store }) := consistent.filed_run events
  exact (reached.consistent.filed.run later).advanced

theorem runEvents_advanced_first :
    Advanced (runEvents rootHost firstLaunch { store := emptyStore }).store.version
      (runEvents rootHost [.reboot] (runEvents rootHost firstLaunch { store := emptyStore })).store.version :=
  runEvents_advanced (Consistent.fresh trivial) [.reboot]

/-- After any run, a launch shows itself complete only where the version is its manifest's, the
    fence shows it and no journal is left; it succeeds only so. -/
theorem launchTrace_complete (consistent : Consistent host (fun _ _ => True) store) (manifest : AppManifest)
    (schema : Schema) (plan : ExecutionPlan) (answers : List Answer) :
    let trace := (runEvents host events { store }).launchTrace host manifest schema plan answers
    (∀ generation, backgroundRestoreIsSafe true generation trace.state = true →
      Finished manifest.id schema.version trace.state) ∧
      (trace.result = some (.ok ()) → Finished manifest.id schema.version trace.state ∧
        trace.state.complete = plan.generation) := by
  have reached : Filed host store.version (runEvents host events { store }) := consistent.filed_run events
  have stays := apply_stays { manifest with dataSchema := some schema } plan rfl (reached.consistent.marked none none)
    reached.advanced rfl
  have promised : ∀ promise ∈ ((runEvents host events { store }).launchTrace host manifest schema plan answers).left,
      promise.Sound fun _ _ => True := fun promise _ => promise_any promise
  refine ⟨fun generation safe => ?_, fun succeeded => stays.ends promised succeeded⟩
  simp only [backgroundRestoreIsSafe, Bool.not_true, Bool.false_or, phaseMatches, decide_eq_true_eq] at safe
  rcases (stays.stands promised).complete with absent | finished
  · cases absent.symm.trans safe
  · exact finished

theorem launchTrace_complete_first :
    let trace := (runEvents rootHost [.reboot] { store := emptyStore }).launchTrace rootHost magicManifest magicSchema
      magicPlan (List.replicate 80 calmAnswer)
    (∀ generation, backgroundRestoreIsSafe true generation trace.state = true → Finished magicId 2 trace.state) ∧
      (trace.result = some (.ok ()) → Finished magicId 2 trace.state ∧ trace.state.complete = some 7) :=
  launchTrace_complete (Consistent.fresh trivial) magicManifest magicSchema magicPlan (List.replicate 80 calmAnswer)

end Theorems

end Remagic.DataSchema
