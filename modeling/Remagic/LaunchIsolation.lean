import Remagic.Fallible
import Remagic.LaunchPlan

/-!
# The platform's variables are the platform's

Whatever environment an application asks for, the runner sets the same
variables over it, and all of them under names that no application may use.
-/

namespace Remagic.Runner

/-! ## Variables set over others -/

/-- All the names are the platform's. -/
def Reserves (pairs : List (String × String)) : Prop := ∀ pair ∈ pairs, isPlatformReservedEnvironment pair.1 = true

theorem Reserves.append {first second : List (String × String)} (left : Reserves first) (right : Reserves second) :
    Reserves (first ++ second) := fun pair member => (List.mem_append.mp member).elim (left pair) (right pair)

theorem reserves_of_keys {pairs : List (String × String)}
    (keys : (pairs.map Prod.fst).all isPlatformReservedEnvironment = true) : Reserves pairs := fun pair member =>
  List.all_eq_true.mp keys pair.1 (List.mem_map_of_mem member)

theorem runtimeDir_reserved : isPlatformReservedEnvironment "REMAGIC_RUNTIME_DIR" = true := by decide

theorem libraryPath_reserved : isPlatformReservedEnvironment "LD_LIBRARY_PATH" = true := by decide

namespace Variables
variable {vars other : Variables} {key : String}

theorem insertAll_append (vars : Variables) (first second : List (String × String)) :
    vars.insertAll (first ++ second) = (vars.insertAll first).insertAll second := List.foldl_append

/-- The same pairs set over equal values give equal values. -/
theorem insertAll_congr (same : vars[key]? = other[key]?) (pairs : List (String × String)) :
    (vars.insertAll pairs)[key]? = (other.insertAll pairs)[key]? := by
  induction pairs generalizing vars other with
  | nil => exact same
  | cons pair rest ih =>
    refine ih ?_
    rw [Std.ExtTreeMap.getElem?_insert, Std.ExtTreeMap.getElem?_insert, same]

theorem mem_insertAll {pairs : List (String × String)} :
    key ∈ vars.insertAll pairs ↔ key ∈ pairs.map Prod.fst ∨ key ∈ vars := by
  induction pairs generalizing vars with
  | nil => exact ⟨.inr, fun either => either.elim nofun id⟩
  | cons pair rest ih =>
    have later : key ∈ vars.insertAll (pair :: rest) ↔ key ∈ rest.map Prod.fst ∨ key ∈ vars.insert pair.1 pair.2 := ih
    rw [later, Std.ExtTreeMap.mem_insert, List.map_cons, List.mem_cons, Std.LawfulEqCmp.compare_eq_iff_eq,
      eq_comm (a := pair.1)]
    tauto

/-- A name that no pair sets keeps its value. -/
theorem insertAll_apart {pairs : List (String × String)} (apart : key ∉ pairs.map Prod.fst) :
    (vars.insertAll pairs)[key]? = vars[key]? := by
  induction pairs generalizing vars with
  | nil => rfl
  | cons pair rest ih =>
    obtain ⟨elsewhere, later⟩ := not_or.mp (mt List.mem_cons.mpr apart)
    have after : (insertAll (vars.insert pair.1 pair.2) rest)[key]? = (vars.insert pair.1 pair.2)[key]? := ih later
    exact after.trans (by simp [Std.ExtTreeMap.getElem?_insert, Ne.symm elsewhere])

end Variables

/-- An application's environment without any of the platform's names. -/
def Apart (application : Variables) : Prop := ∀ key ∈ application, isPlatformReservedEnvironment key = false

section
variable {pairs : List (String × String)} {application other : Variables} {key : String}

theorem Reserves.named (reserved : Reserves pairs) (set : key ∈ pairs.map Prod.fst) :
    isPlatformReservedEnvironment key = true := by
  obtain ⟨pair, member, rfl⟩ := List.mem_map.mp set
  exact reserved pair member

theorem Apart.unset (apart : Apart application) (reserved : Reserves pairs) (member : key ∈ application) :
    key ∉ pairs.map Prod.fst := fun set =>
  Bool.false_ne_true ((apart key member).symm.trans (reserved.named set))

theorem Apart.absent (apart : Apart application) (reserved : isPlatformReservedEnvironment key = true) :
    application[key]? = none := by
  rw [getElem?_eq_none_iff]
  exact fun member => Bool.false_ne_true ((apart key member).symm.trans reserved)

theorem Apart.agree (apart : Apart application) (apart' : Apart other) (reserved : isPlatformReservedEnvironment key = true) :
    (application.insertAll pairs)[key]? = (other.insertAll pairs)[key]? :=
  Variables.insertAll_congr ((apart.absent reserved).trans (apart'.absent reserved).symm) pairs

end

/-- The edit sets some reserved variables, the same over whatever variables it is given. -/
def Plain (edit : Variables → Variables) : Prop := ∃ pairs, Reserves pairs ∧ ∀ vars, edit vars = vars.insertAll pairs

theorem Plain.after {first second : Variables → Variables} (second' : Plain second) (first' : Plain first) :
    Plain fun vars => second (first vars) := by
  obtain ⟨left, reserved, sets⟩ := first'
  obtain ⟨right, reserved', sets'⟩ := second'
  refine ⟨left ++ right, reserved.append reserved', fun vars => ?_⟩
  exact (sets' _).trans (by rw [sets, Variables.insertAll_append])

theorem plain_insert {key : String} (reserved : isPlatformReservedEnvironment key = true) (value : String) :
    Plain fun vars => vars.insert key value :=
  ⟨[(key, value)], fun pair member => by rwa [List.mem_singleton.mp member], fun _ => rfl⟩

theorem plain_insertSome {key : String} (reserved : isPlatformReservedEnvironment key = true) (value : Option String) :
    Plain fun vars => insertSome vars key value := by
  cases value with
  | none => exact ⟨[], nofun, fun _ => rfl⟩
  | some value => exact plain_insert reserved value

variable {edit : Variables → Variables}

namespace Executor
variable {σ α : Type} {system : System σ}

theorem bind_accepted {job : Job σ α} {β : Type} {next : α → Job σ β} {files : σ} {result : β × σ}
    (accepted : (job >>= next).run files = .ok result) :
    ∃ found after, job.run files = .ok (found, after) ∧ (next found).run after = .ok result := by
  rw [StateT.run_bind] at accepted
  obtain ⟨found, ran, rest⟩ := Fallible.ok_of_bind accepted
  exact ⟨found.1, found.2, ran, rest⟩

/-- Where it succeeds, the job sets the same reserved variables over whatever variables
    it is given, and leaves the same files. -/
def Overlays (job : Variables → Job σ Variables) : Prop :=
  ∀ files, ∃ pairs after, Reserves pairs ∧
    ∀ vars result, (job vars).run files = .ok result → result = (vars.insertAll pairs, after)

theorem overlays_pure (plain : Plain edit) : Overlays fun vars => (pure (edit vars) : Job σ Variables) := by
  obtain ⟨pairs, reserved, sets⟩ := plain
  refine fun files => ⟨pairs, files, reserved, fun vars result accepted => ?_⟩
  cases accepted
  rw [sets]

theorem Overlays.after {job : Variables → Job σ Variables} (overlays : Overlays job) (plain : Plain edit) :
    Overlays fun vars => job (edit vars) := by
  intro files
  obtain ⟨left, reserved, sets⟩ := plain
  obtain ⟨right, files', reserved', sets'⟩ := overlays files
  refine ⟨left ++ right, files', reserved.append reserved', fun vars result accepted => ?_⟩
  rw [sets' _ result accepted, sets, Variables.insertAll_append]

theorem overlays_bind {first second : Variables → Job σ Variables} (first' : Overlays first) (second' : Overlays second) :
    Overlays fun vars => first vars >>= second := by
  intro files
  obtain ⟨left, files', reserved, sets⟩ := first' files
  obtain ⟨right, files'', reserved', sets'⟩ := second' files'
  refine ⟨left ++ right, files'', reserved.append reserved', fun vars result accepted => ?_⟩
  obtain ⟨found, after, ran, rest⟩ := bind_accepted accepted
  cases sets vars _ ran
  rw [sets' _ result rest, Variables.insertAll_append]

/-- A question that has nothing to do with the variables. -/
theorem overlays_ask {question : Job σ α} {job : α → Variables → Job σ Variables} (each : ∀ answer, Overlays (job answer)) :
    Overlays fun vars => question >>= fun answer => job answer vars := by
  intro files
  cases asked : question.run files with
  | error error =>
    refine ⟨[], files, nofun, fun vars result accepted => ?_⟩
    obtain ⟨found, after, ran, _⟩ := bind_accepted accepted
    rw [asked] at ran
    cases ran
  | ok found =>
    obtain ⟨pairs, after, reserved, sets⟩ := each found.1 found.2
    refine ⟨pairs, after, reserved, fun vars result accepted => ?_⟩
    obtain ⟨answer, files', ran, rest⟩ := bind_accepted accepted
    rw [asked] at ran
    cases ran
    exact sets vars result rest

/-! ## What the runner sets -/

theorem insertTokenVariables_plain (appId : AppId) (generation : Option Nat) (descriptor : LaunchDescriptor) :
    Plain fun vars => insertTokenVariables system vars appId generation descriptor := by
  cases generation with
  | none => exact ⟨[], nofun, fun _ => rfl⟩
  | some generation =>
    exact Plain.after (plain_insert (by decide) _) (plain_insert (by decide) (toString generation))

theorem insertDescriptorVariables_plain (descriptor : LaunchDescriptor) :
    Plain fun vars => insertDescriptorVariables system vars descriptor :=
  Plain.after (plain_insertSome (by decide) _)
    (Plain.after (plain_insertSome (by decide) _) (plain_insertSome (by decide) _))

theorem insertPlatformVariables_overlays (appId : AppId) (generation : Option Nat) (qtfbKey : Option Int)
    (descriptor : LaunchDescriptor) (platform : PlatformRuntime) :
    Overlays fun vars => insertPlatformVariables system vars appId generation qtfbKey descriptor platform := by
  unfold insertPlatformVariables
  refine overlays_bind ?_ ?_
  · cases qtfbKey with
    | none => exact overlays_pure (plain_insert (by decide) _)
    | some key =>
      refine overlays_ask fun socket => overlays_pure ?_
      exact Plain.after (plain_insert (by decide) socket)
        (Plain.after (plain_insert (by decide) (toString key)) (plain_insert (by decide) platform.path))
  · refine overlays_pure (Plain.after (insertDescriptorVariables_plain descriptor)
      (Plain.after (insertTokenVariables_plain appId generation descriptor) ?_))
    exact Plain.after (plain_insert (by decide) _) (Plain.after (plain_insert (by decide) _)
      (Plain.after (plain_insert (by decide) _) (plain_insert (by decide) _)))

theorem insertFontDirectories_overlays (fontDirectories : List PathBuf) :
    Overlays fun vars => (insertFontDirectories vars fontDirectories : Job σ Variables) := by
  unfold insertFontDirectories
  split
  · exact overlays_pure ⟨[], nofun, fun _ => rfl⟩
  · exact overlays_ask fun directories =>
      overlays_pure (Plain.after (plain_insert (by decide) directories) (plain_insert (by decide) directories))

theorem insertSharedStorage_overlays (capabilities : List String) (capability key : String)
    (reserved : isPlatformReservedEnvironment key = true) (path : PathBuf) :
    Overlays fun vars => insertSharedStorage system vars capabilities capability key path := by
  unfold insertSharedStorage
  split
  · exact overlays_pure ⟨[], nofun, fun _ => rfl⟩
  · exact overlays_ask fun _ => overlays_ask fun _ => overlays_ask fun text => overlays_pure (plain_insert reserved text)

theorem insertSharedStorageVariables_overlays (capabilities : List String) (platform : PlatformRuntime) :
    Overlays fun vars => insertSharedStorageVariables system vars capabilities platform :=
  overlays_bind (insertSharedStorage_overlays capabilities _ "REMAGIC_BOOKS_DIR" (by decide) _)
    (insertSharedStorage_overlays capabilities _ "REMAGIC_WALLPAPERS_DIR" (by decide) _)

theorem appendPlatformVariables_overlays (appId : AppId) (generation : Option Nat) (qtfbKey : Option Int)
    (descriptor : LaunchDescriptor) (directories : RuntimeDirectories) (fontDirectories resolvedLibraries : List PathBuf)
    (capabilities : List String) (platform : PlatformRuntime) :
    Overlays fun vars => appendPlatformVariables system vars appId generation qtfbKey descriptor directories
      fontDirectories resolvedLibraries capabilities platform := by
  unfold appendPlatformVariables
  refine overlays_bind (insertPlatformVariables_overlays appId generation qtfbKey descriptor platform) ?_
  refine overlays_ask fun runtimeDir => ?_
  refine overlays_bind ((insertFontDirectories_overlays fontDirectories).after (plain_insert runtimeDir_reserved runtimeDir)) ?_
  refine overlays_ask fun libraryPath => ?_
  exact (insertSharedStorageVariables_overlays capabilities platform).after (plain_insert libraryPath_reserved libraryPath)

/-! ## The agent's variables -/

/-- What the runner sets for an application that may use the agent. -/
def agentPairs (manifest : AppManifest) (platform : PlatformRuntime) (token : String) : List (String × String) :=
  if "agent:pi-v1" ∈ manifest.capabilities then
    [("REMAGIC_AGENT_SOCKET", (platform.agentSocket.text?).getD ""), (agentTokenKey, token),
      ("REMAGIC_AGENT_PRINCIPAL", "foreground")]
  else []

theorem agentPairs_reserves (manifest : AppManifest) (platform : PlatformRuntime) (token : String) :
    Reserves (agentPairs manifest platform token) := by
  unfold agentPairs
  split
  · refine reserves_of_keys ?_
    simp only [List.map_cons, List.map_nil]
    decide
  · nofun

theorem agentPairs_keys (manifest : AppManifest) (platform : PlatformRuntime) (token token' : String) :
    (agentPairs manifest platform token).map Prod.fst = (agentPairs manifest platform token').map Prod.fst := by
  unfold agentPairs
  split <;> rfl

/-- The token is all that tells two launches apart. -/
theorem agentPairs_token (manifest : AppManifest) (platform : PlatformRuntime) (token token' : String) (vars : Variables)
    {key : String} (other : key ≠ agentTokenKey) :
    (vars.insertAll (agentPairs manifest platform token))[key]? =
      (vars.insertAll (agentPairs manifest platform token'))[key]? := by
  unfold agentPairs
  split
  · refine Variables.insertAll_congr ?_ [("REMAGIC_AGENT_PRINCIPAL", "foreground")]
    simp only [Std.ExtTreeMap.getElem?_insert, Std.LawfulEqCmp.compare_eq_iff_eq, Ne.symm other, if_false]
  · rfl

theorem insertAgentVariables_accepted {entropy : Except IoFailure (Vector UInt8 32)} {manifest : AppManifest}
    {platform : PlatformRuntime} {vars : Variables} {files : σ} {result : Variables × σ}
    (accepted : (insertAgentVariables entropy manifest platform vars).run files = .ok result) :
    ∃ token, result = (vars.insertAll (agentPairs manifest platform token), files) := by
  unfold insertAgentVariables at accepted
  unfold agentPairs
  by_cases allowed : "agent:pi-v1" ∈ manifest.capabilities
  · simp only [allowed, if_true] at accepted ⊢
    unfold insertAgentVariable pathText randomAgentToken at accepted
    cases text : platform.agentSocket.text? with
    | none =>
      rw [text] at accepted
      cases accepted
    | some socket =>
      rw [text] at accepted
      cases entropy with
      | error failure => cases accepted
      | ok bytes =>
        cases accepted
        exact ⟨_, rfl⟩
  · simp only [allowed, if_false] at accepted ⊢
    cases accepted
    exact ⟨"", rfl⟩

end Executor

/-! ## The resolved environment -/

/-- Where it succeeds, the edit sets the same reserved variables over whatever variables
    it is given. -/
def Settles (edit : Variables → Checked Variables) : Prop :=
  ∃ pairs, Reserves pairs ∧ ∀ vars after, edit vars = .ok after → after = vars.insertAll pairs

theorem settles_plain (plain : Plain edit) : Settles fun vars => .ok (edit vars) := by
  obtain ⟨pairs, reserved, sets⟩ := plain
  refine ⟨pairs, reserved, fun vars after accepted => ?_⟩
  cases accepted
  exact sets vars

theorem Settles.after {edit : Variables → Checked Variables} (settles : Settles edit) {first : Variables → Variables}
    (plain : Plain first) : Settles fun vars => edit (first vars) := by
  obtain ⟨left, reserved, sets⟩ := plain
  obtain ⟨right, reserved', sets'⟩ := settles
  refine ⟨left ++ right, reserved.append reserved', fun vars after accepted => ?_⟩
  rw [sets' _ after accepted, sets, Variables.insertAll_append]

theorem settles_bind {first second : Variables → Checked Variables} (first' : Settles first) (second' : Settles second) :
    Settles fun vars => first vars >>= second := by
  obtain ⟨left, reserved, sets⟩ := first'
  obtain ⟨right, reserved', sets'⟩ := second'
  refine ⟨left ++ right, reserved.append reserved', fun vars after accepted => ?_⟩
  obtain ⟨between, ran, rest⟩ := Fallible.ok_of_bind accepted
  rw [sets' _ after rest, sets vars between ran, Variables.insertAll_append]

/-- A check that has nothing to do with the variables. -/
theorem settles_ask {α : Type} {question : Checked α} {edit : α → Variables → Checked Variables}
    (each : ∀ answer, Settles (edit answer)) : Settles fun vars => question >>= fun answer => edit answer vars := by
  cases question with
  | error error => exact ⟨[], nofun, fun _ _ accepted => nomatch accepted⟩
  | ok answer => exact each answer

theorem insertNetworkVariables_settles (requirements : RuntimeRequirements) (enforcement : NetworkEnforcement) :
    Settles fun vars => insertNetworkVariables vars requirements enforcement := by
  refine settles_ask fun _ => settles_plain ⟨_, reserves_of_keys ?_, fun _ => rfl⟩
  simp only [List.map_cons, List.map_nil]
  decide

/-- The part of `insertOptionalPolicyVariables` between its locale and its certificates. -/
theorem fontVariables_settles (directories : List PathBuf) :
    Settles fun vars =>
      if directories = [] then pure vars
      else encodePathList directories >>= fun fontDirectories =>
        pure ((vars.insert "QT_QPA_FONTDIR" fontDirectories).insert "REMAGIC_FONT_DIRECTORIES" fontDirectories) := by
  by_cases empty : directories = []
  · simp only [empty, if_true]
    exact settles_plain ⟨[], nofun, fun _ => rfl⟩
  · simp only [empty, if_false]
    exact settles_ask fun fontDirectories =>
      settles_plain (Plain.after (plain_insert (by decide) fontDirectories) (plain_insert (by decide) fontDirectories))

theorem insertOptionalPolicyVariables_settles (requirements : RuntimeRequirements) :
    Settles fun vars => insertOptionalPolicyVariables vars requirements := by
  have locales : Plain fun vars =>
      insertSome (insertSome vars "LC_ALL" requirements.locale.lcAll) "FONTCONFIG_FILE"
        (requirements.fonts.fontconfigFile.map PathBuf.display) :=
    Plain.after (plain_insertSome (by decide) _) (plain_insertSome (by decide) _)
  have certificates : Plain fun vars =>
      insertSome (insertSome vars "SSL_CERT_FILE" (requirements.certificates.caBundle.map PathBuf.display)) "SSL_CERT_DIR"
        (requirements.certificates.caDirectory.map PathBuf.display) :=
    Plain.after (plain_insertSome (by decide) _) (plain_insertSome (by decide) _)
  exact (settles_bind (fontVariables_settles _) (settles_plain certificates)).after locales

theorem baseVariables_plain (appId : AppId) (requirements : RuntimeRequirements) (directories : RuntimeDirectories)
    (platformPath : String) :
    Plain fun vars => baseVariables appId requirements directories vars platformPath := by
  refine ⟨[("HOME", directories.home.display), ("XDG_CONFIG_HOME", directories.configHome.display),
    ("XDG_DATA_HOME", directories.dataHome.display), ("XDG_STATE_HOME", directories.stateHome.display),
    ("XDG_CACHE_HOME", directories.cacheHome.display), ("XDG_RUNTIME_DIR", directories.runtimeDir.display),
    ("LANG", requirements.locale.lang), ("TZ", requirements.timezone), ("PATH", platformPath),
    ("REMAGIC_APP_ID", appId.value), ("REMAGIC_RUNTIME_PROFILE", requirements.profile.asStr)], reserves_of_keys ?_, fun _ => rfl⟩
  simp only [List.map_cons, List.map_nil]
  decide

theorem insertLoaderVariables_plain (appId : AppId) (requirements : RuntimeRequirements) (resolvedLibraries : List PathBuf) :
    Plain fun vars => insertLoaderVariables vars appId requirements resolvedLibraries := by
  have key : Plain fun vars => if requirements.profile = .qtfbCompat
      then vars.insert "QTFB_KEY" (toString (qtfbKeyForApp appId)) else vars := by
    by_cases compat : requirements.profile = .qtfbCompat
    · simp only [compat, if_true]
      exact plain_insert (by decide) _
    · simp only [compat, if_false]
      exact ⟨[], nofun, fun _ => rfl⟩
  unfold insertLoaderVariables
  by_cases none : sortPaths (resolvedLibraries.filterMap PathBuf.parent) = []
  · simp only [none, if_true]
    exact key
  · simp only [none, if_false]
    exact Plain.after (plain_insert libraryPath_reserved _) key

/-- The application's own environment stands under what is resolved over it. -/
theorem resolve_accepted (appId : AppId) (requirements : RuntimeRequirements) (resolvedLibraries : List PathBuf)
    (platformCapabilities : List String) (platformPath : String) (enforcement : NetworkEnforcement) (device : DeviceProfile) :
    ∃ pairs, Reserves pairs ∧ ∀ application resolved,
      LaunchEnvironment.resolve appId requirements application resolvedLibraries platformCapabilities platformPath
        enforcement device = .ok resolved →
      resolved.vars = application.insertAll pairs ∧ requirements.directories = some resolved.directories := by
  cases directories : requirements.directories with
  | none =>
    refine ⟨[], nofun, fun application resolved accepted => ?_⟩
    obtain ⟨_, _, accepted⟩ := Fallible.ok_of_bind accepted
    rw [directories] at accepted
    cases accepted
  | some found =>
    have settles : Settles fun vars => device.encoded >>= fun profile =>
        insertNetworkVariables ((baseVariables appId requirements found vars platformPath).insert deviceProfileEnv profile)
          requirements enforcement >>= fun vars =>
        insertOptionalPolicyVariables vars requirements >>= fun vars =>
        .ok (insertLoaderVariables vars appId requirements resolvedLibraries) := by
      refine settles_ask fun profile => ?_
      refine Settles.after (settles_bind (insertNetworkVariables_settles requirements enforcement) ?_)
        (Plain.after (plain_insert (by decide) profile) (baseVariables_plain appId requirements found platformPath))
      exact settles_bind (insertOptionalPolicyVariables_settles requirements)
        (settles_plain (insertLoaderVariables_plain appId requirements resolvedLibraries))
    obtain ⟨pairs, reserved, sets⟩ := settles
    refine ⟨pairs, reserved, fun application resolved accepted => ?_⟩
    obtain ⟨_, _, accepted⟩ := Fallible.ok_of_bind accepted
    rw [directories] at accepted
    obtain ⟨_, _, accepted⟩ := Fallible.ok_of_bind accepted
    obtain ⟨_, _, accepted⟩ := Fallible.ok_of_bind accepted
    obtain ⟨profile, encoded, accepted⟩ := Fallible.ok_of_bind accepted
    obtain ⟨networked, network, accepted⟩ := Fallible.ok_of_bind accepted
    obtain ⟨optional, policies, accepted⟩ := Fallible.ok_of_bind accepted
    obtain ⟨_, _, accepted⟩ := Fallible.ok_of_bind accepted
    cases accepted
    refine ⟨sets application _ ?_, rfl⟩
    simp only [encoded, network, policies, bind, Except.bind]

/-! ## Two launches of one application -/

namespace Executor
variable {σ : Type} (system : System σ) (manifest : AppManifest) (platform : PlatformRuntime) (descriptor : LaunchDescriptor)

theorem policy_accepted {α : Type} {checked : Checked α} {files after : σ} {value : α}
    (accepted : (policy checked).run files = .ok (value, after)) : checked = .ok value ∧ files = after := by
  cases checked with
  | error error => cases accepted
  | ok value =>
    cases accepted
    exact ⟨rfl, rfl⟩

/-- No name of an accepted environment is the platform's. -/
theorem validateApplicationEnvironment_accepted {manifest : AppManifest} {files : σ} {result : Unit × σ}
    (v2 : manifest.schema = manifestSchemaV2)
    (accepted : (validateApplicationEnvironment manifest).run files = .ok result) :
    result.2 = files ∧ Apart manifest.environment := by
  unfold validateApplicationEnvironment at accepted
  simp only [v2, if_true] at accepted
  split at accepted
  · cases accepted
  · rename_i none_reserved
    cases accepted
    refine ⟨rfl, fun key member => ?_⟩
    have apart := List.find?_eq_none.mp none_reserved key (Std.ExtTreeMap.mem_keys.mpr member)
    simp only [decide_eq_true_eq, not_or, Bool.not_eq_true] at apart
    exact apart.1

/-- Whatever the application's environment, a plan of the second schema sets the same
    variables over it, up to the agent's token. -/
theorem prepareV2Execution_accepted (generation : Option Nat) (qtfbKey : Option Int) (libraries : List PathBuf) (files : σ) :
    ∃ pairs, Reserves pairs ∧ ∀ entropy environment plan after,
      (prepareV2Execution system entropy { manifest with environment := environment } platform descriptor generation
        qtfbKey libraries).run files = .ok (plan, after) →
      ∃ token, plan.vars = environment.insertAll (pairs ++ agentPairs manifest platform token) := by
  obtain ⟨resolved, reserved, resolves⟩ := resolve_accepted manifest.id manifest.runtime libraries
    platform.capabilities platform.path platform.networkEnforcement platform.device
  cases declared : manifest.runtime.directories with
  | none =>
    refine ⟨[], nofun, fun entropy environment plan after accepted => ?_⟩
    obtain ⟨launch, between, settled, _⟩ := bind_accepted accepted
    have known := (resolves environment launch (policy_accepted settled).1).2
    rw [declared] at known
    cases known
  | some directories =>
    have overlays : Overlays fun vars => createRuntimeDirectories system directories >>= fun _ =>
        appendPlatformVariables system vars manifest.id generation qtfbKey descriptor directories
          manifest.runtime.fonts.directories libraries manifest.capabilities platform :=
      overlays_ask fun _ => appendPlatformVariables_overlays manifest.id generation qtfbKey descriptor directories
        manifest.runtime.fonts.directories libraries manifest.capabilities platform
    obtain ⟨appended, created, reserved', appends⟩ := overlays files
    refine ⟨resolved ++ appended, reserved.append reserved', fun entropy environment plan after accepted => ?_⟩
    obtain ⟨launch, between, settled, accepted⟩ := bind_accepted accepted
    obtain ⟨resolution, rfl⟩ := policy_accepted settled
    obtain ⟨set, known⟩ := resolves environment launch resolution
    rw [declared] at known
    obtain rfl := Option.some.inj known
    obtain ⟨_, made, creates, accepted⟩ := bind_accepted accepted
    obtain ⟨vars, grown, appending, accepted⟩ := bind_accepted accepted
    have both := appends launch.vars (vars, grown) (by
      rw [StateT.run_bind, creates]
      exact appending)
    obtain ⟨withAgent, granted, agent, accepted⟩ := bind_accepted accepted
    obtain ⟨token, sets⟩ := insertAgentVariables_accepted agent
    obtain ⟨_, _, checked, accepted⟩ := bind_accepted accepted
    cases accepted
    cases both
    cases sets
    refine ⟨token, ?_⟩
    rw [Variables.insertAll_append, Variables.insertAll_append, ← set]
    rfl

/-- What `prepareExecution` settles before it looks at the application's environment. -/
def preflight : Job σ (Option Nat × Option Int × List PathBuf) := do
  validateProgram system manifest
  policy (manifest.runtime.validate (manifest.schema = manifestSchemaV2))
  validateProfileContract manifest
  validatePlatformDirectoryRoots manifest platform
  validatePlatformCapabilities manifest platform
  validateRuntimeResources system manifest platform
  let generation ← validateLaunchDescriptor manifest descriptor
  let qtfbKey ← resolveQtfbKey manifest descriptor
  let resolvedLibraries ← resolveRequiredLibraries system manifest platform
  pure (generation, qtfbKey, resolvedLibraries)

theorem prepareExecution_preflight (entropy : Except IoFailure (Vector UInt8 32)) (v2 : manifest.schema = manifestSchemaV2) :
    prepareExecution system entropy manifest platform descriptor =
      preflight system manifest platform descriptor >>= fun found =>
        validateApplicationEnvironment manifest >>= fun _ =>
        validateDeviceCompatibility manifest platform >>= fun _ =>
        prepareV2Execution system entropy manifest platform descriptor found.1 found.2.1 found.2.2 := by
  simp only [prepareExecution, preflight, v2, if_true, bind_assoc, pure_bind]

theorem preflight_environment (v2 : manifest.schema = manifestSchemaV2) (environment : Variables) :
    preflight system { manifest with environment := environment } platform descriptor =
      preflight system manifest platform descriptor := by
  have libraries : resolveRequiredLibraries system { manifest with environment := environment } platform =
      resolveRequiredLibraries system manifest platform := by
    simp only [resolveRequiredLibraries, v2, ne_eq, not_true_eq_false, if_false]
  unfold preflight
  rw [libraries]
  rfl

variable {system manifest platform descriptor}

theorem prepareExecution_preflighted {entropy : Except IoFailure (Vector UInt8 32)} {environment : Variables} {files after : σ}
    {plan : ExecutionPlan} (v2 : manifest.schema = manifestSchemaV2)
    (accepted : (prepareExecution system entropy { manifest with environment := environment } platform descriptor).run files =
      .ok (plan, after)) :
    Apart environment ∧
      ∃ found checked ready, (preflight system manifest platform descriptor).run files = .ok (found, checked) ∧
        (validateDeviceCompatibility manifest platform).run checked = .ok ((), ready) ∧
        (prepareV2Execution system entropy { manifest with environment := environment } platform descriptor found.1 found.2.1
          found.2.2).run ready = .ok (plan, after) := by
  have v2' : { manifest with environment := environment }.schema = manifestSchemaV2 := v2
  rw [prepareExecution_preflight system _ platform descriptor entropy v2',
    preflight_environment system manifest platform descriptor v2] at accepted
  obtain ⟨found, checked, settled, rest⟩ := bind_accepted accepted
  obtain ⟨_, between, names, rest'⟩ := bind_accepted rest
  obtain ⟨rfl, apart⟩ := validateApplicationEnvironment_accepted v2' names
  obtain ⟨_, ready, compatible, prepared⟩ := bind_accepted rest'
  exact ⟨apart, found, between, ready, settled, compatible, prepared⟩

variable (system manifest platform descriptor)

/-- Whatever the application's environment, an accepted launch of a manifest of the second
    schema sets the same reserved variables over it, up to the agent's token. -/
theorem prepareExecution_accepted (v2 : manifest.schema = manifestSchemaV2) (files : σ) :
    ∃ pairs, Reserves pairs ∧ ∀ entropy environment plan after,
      (prepareExecution system entropy { manifest with environment := environment } platform descriptor).run files =
        .ok (plan, after) →
      Apart environment ∧ ∃ token, plan.vars = environment.insertAll (pairs ++ agentPairs manifest platform token) := by
  by_cases launched : ∃ found checked ready, (preflight system manifest platform descriptor).run files = .ok (found, checked) ∧
      (validateDeviceCompatibility manifest platform).run checked = .ok ((), ready)
  · obtain ⟨found, checked, ready, settled, compatible⟩ := launched
    obtain ⟨pairs, reserved, sets⟩ :=
      prepareV2Execution_accepted system manifest platform descriptor found.1 found.2.1 found.2.2 ready
    refine ⟨pairs, reserved, fun entropy environment plan after accepted => ?_⟩
    obtain ⟨apart, found', checked', ready', settled', compatible', prepared⟩ := prepareExecution_preflighted v2 accepted
    -- Both launches pass the same checks, with the same answers.
    cases settled.symm.trans settled'
    cases compatible.symm.trans compatible'
    exact ⟨apart, sets entropy environment plan after prepared⟩
  · refine ⟨[], nofun, fun entropy environment plan after accepted => ?_⟩
    obtain ⟨_, found, checked, ready, settled, compatible, _⟩ := prepareExecution_preflighted v2 accepted
    exact absurd ⟨found, checked, ready, settled, compatible⟩ launched

/-- The names that the runner sets do not depend on the application's environment. Two
    accepted launches agree on those and on every other reserved name, up to the agent's
    token, and each holds the rest of its environment as the application asked for it. -/
theorem application_environment_isolated (v2 : manifest.schema = manifestSchemaV2) (files : σ) :
    ∃ keys : List String, (∀ key ∈ keys, isPlatformReservedEnvironment key = true) ∧
      ∀ entropy entropy' environment environment' plan plan' after after',
        (prepareExecution system entropy { manifest with environment := environment } platform descriptor).run files =
          .ok (plan, after) →
        (prepareExecution system entropy' { manifest with environment := environment' } platform descriptor).run files =
          .ok (plan', after') →
        (∀ key, isPlatformReservedEnvironment key = true ∨ key ∈ keys → key ≠ agentTokenKey →
          plan.vars[key]? = plan'.vars[key]?) ∧
        (agentTokenKey ∈ plan.vars ↔ agentTokenKey ∈ plan'.vars) ∧
        (∀ key, key ∈ plan.vars ↔ key ∈ keys ∨ key ∈ environment) ∧
        (∀ key, key ∈ plan'.vars ↔ key ∈ keys ∨ key ∈ environment') ∧
        (∀ key ∈ environment, key ∉ keys ∧ plan.vars[key]? = environment[key]?) ∧
        ∀ key ∈ environment', key ∉ keys ∧ plan'.vars[key]? = environment'[key]? := by
  obtain ⟨pairs, reserved, launches⟩ := prepareExecution_accepted system manifest platform descriptor v2 files
  have reserves token : Reserves (pairs ++ agentPairs manifest platform token) :=
    reserved.append (agentPairs_reserves manifest platform token)
  have keys token : (pairs ++ agentPairs manifest platform token).map Prod.fst =
      (pairs ++ agentPairs manifest platform "").map Prod.fst := by
    rw [List.map_append, List.map_append, agentPairs_keys manifest platform token ""]
  have present (vars : Variables) token key : key ∈ vars.insertAll (pairs ++ agentPairs manifest platform token) ↔
      key ∈ (pairs ++ agentPairs manifest platform "").map Prod.fst ∨ key ∈ vars := by
    rw [Variables.mem_insertAll, keys token]
  refine ⟨(pairs ++ agentPairs manifest platform "").map Prod.fst, fun key => (reserves "").named, ?_⟩
  intro entropy entropy' environment environment' plan plan' after after' accepted accepted'
  obtain ⟨apart, token, sets⟩ := launches entropy environment plan after accepted
  obtain ⟨apart', token', sets'⟩ := launches entropy' environment' plan' after' accepted'
  rw [sets, sets']
  refine ⟨fun key either other => ?agree, ?token, present environment token, present environment' token',
    fun key member => ?own, fun key member => ?own'⟩
  case agree =>
    have named : isPlatformReservedEnvironment key = true := either.elim id (reserves "").named
    rw [Variables.insertAll_append, Variables.insertAll_append, agentPairs_token manifest platform token token' _ other,
      ← Variables.insertAll_append, ← Variables.insertAll_append]
    exact apart.agree apart' named
  case token =>
    have unnamed {vars : Variables} (apart : Apart vars) : agentTokenKey ∉ vars := fun member =>
      Bool.false_ne_true ((apart agentTokenKey member).symm.trans (by decide))
    rw [present, present]
    exact ⟨fun either => .inl (either.resolve_right (unnamed apart)), fun either => .inl (either.resolve_right (unnamed apart'))⟩
  case own => exact ⟨apart.unset (reserves "") member, Variables.insertAll_apart (apart.unset (reserves token) member)⟩
  case own' => exact ⟨apart'.unset (reserves "") member, Variables.insertAll_apart (apart'.unset (reserves token') member)⟩

/-! ## A launch -/

def weatherDirectory : Metadata := { isDir := true, mode := 0o40700, uid := 0, len := 4096 }

def weatherFiles : List (String × Metadata) :=
  [("/", weatherDirectory), ("/lib", weatherDirectory), ("/usr", weatherDirectory), ("/usr/lib", weatherDirectory),
    ("/home", weatherDirectory), ("/home/config", weatherDirectory), ("/home/data", weatherDirectory),
    ("/home/state", weatherDirectory), ("/home/cache", weatherDirectory), ("/run", weatherDirectory),
    ("/run/weather", weatherDirectory), ("/run/pi", { isSocket := true, mode := 0o140600, uid := 0, len := 0 }),
    ("/opt", weatherDirectory), ("/opt/weather", { isFile := true, mode := 0o100755, uid := 0, len := 9 }),
    ("/zone", weatherDirectory), ("/zone/UTC", { isFile := true, mode := 0o100644, uid := 0, len := 9 })]

def weatherMetadata (path : PathBuf) (_ : Unit) : Except IoFailure Metadata :=
  match weatherFiles.find? fun entry => path.same (.ofString entry.1) with
  | some entry => .ok entry.2
  | none => .error { notFound := true, text := "No such file or directory" }

/-- Files that nobody changes, whose directories have the runner's mode already. -/
def weatherSystem : System Unit where
  metadata := weatherMetadata
  symlinkMetadata := weatherMetadata
  createDir _ _ _ := .error { notFound := false, text := "Read-only file system" }
  setPermissions _ path files := Except.map (fun _ => ()) (weatherMetadata path files)
  readDir path files := Except.map (fun _ => ()) (weatherMetadata path files)
  readFirst path files := Except.map (fun _ => ()) (weatherMetadata path files)
  effectiveUid := 0
  processId := 7
  json _ := "\x7b\"app_id\":\"weather\",\"foreground_epoch\":1,\"generation\":1,\"lease_id\":1\x7d"

theorem weather_valid : validId "weather" = true := by decide

def weatherManifest : AppManifest where
  schema := manifestSchemaV2
  id := ⟨"weather", weather_valid⟩
  exec := .ofString "/opt/weather"
  workingDir := .ofString "/opt"
  display := "none"
  capabilities := ["agent:pi-v1"]
  runtime := {
    profile := .headless
    directories := some {
      home := .ofString "/home", configHome := .ofString "/home/config", dataHome := .ofString "/home/data",
      stateHome := .ofString "/home/state", cacheHome := .ofString "/home/cache", runtimeDir := .ofString "/run/weather" } }
  environment := ∅
  supportedDevices := [.paperPro]
  supportedOs := []

def weatherProfile : String :=
  "\x7b\"schema_version\":1,\"product\":\"paper_pro\",\"codename\":\"ferrari\",\"os_version\":\"3.27.3.0\"\x7d"

def weatherPlatform : PlatformRuntime where
  device := { product := .paperPro, osVersion := "3.27.3.0", json := .ok weatherProfile }
  capabilities := ["agent:pi-v1"]
  qtfbSocket := .ofString "/run/qtfb"
  agentSocket := .ofString "/run/pi"
  path := "/usr/bin"
  librarySearchDirs := []
  zoneinfoRoot := .ofString "/zone"
  homeRoot := .ofString "/home"
  runtimeRoot := .ofString "/run"
  networkEnforcement := .metadataOnly

def weatherDescriptor : LaunchDescriptor := { generation := some 1, foregroundEpoch := some 1, leaseId := some 1 }

def weatherLaunch (byte : UInt8) (environment : Variables) : Except ExecutorError (ExecutionPlan × Unit) :=
  (prepareExecution weatherSystem (.ok (Vector.replicate 32 byte)) { weatherManifest with environment := environment }
    weatherPlatform weatherDescriptor).run ()

def darkEnvironment : Variables := Variables.insertAll ∅ [("THEME", "dark")]

theorem weatherLaunch_isOk : (weatherLaunch 3 ∅).isOk = true := by decide +kernel

theorem weatherLaunch_dark_isOk : (weatherLaunch 5 darkEnvironment).isOk = true := by decide +kernel

theorem application_environment_isolated_weather :
    ∃ plan plan' after after', weatherLaunch 3 ∅ = .ok (plan, after) ∧ weatherLaunch 5 darkEnvironment = .ok (plan', after') ∧
      plan.vars["REMAGIC_AGENT_SOCKET"]? = plan'.vars["REMAGIC_AGENT_SOCKET"]? ∧ plan'.vars["THEME"]? = some "dark" := by
  obtain ⟨keys, _, isolated⟩ :=
    application_environment_isolated weatherSystem weatherManifest weatherPlatform weatherDescriptor rfl ()
  cases launched : weatherLaunch 3 ∅ with
  | error error =>
    have passes := weatherLaunch_isOk
    rw [launched] at passes
    cases passes
  | ok result =>
    cases launched' : weatherLaunch 5 darkEnvironment with
    | error error =>
      have passes := weatherLaunch_dark_isOk
      rw [launched'] at passes
      cases passes
    | ok result' =>
      obtain ⟨agree, _, _, _, _, own⟩ := isolated _ _ ∅ darkEnvironment _ _ _ _ launched launched'
      refine ⟨_, _, _, _, rfl, rfl, agree _ (.inl (by decide)) (by decide), ?_⟩
      exact (own "THEME" (by decide)).2.trans (by decide)

end Executor
end Remagic.Runner
