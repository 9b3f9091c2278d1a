import Remagic.LaunchIsolation
import Remagic.ManagedEnvironment

/-!
# What a launch writes, its application reads

The runner sets its variables in several steps, each of which changes only its own names.
So what each step wrote is what the application finds.
-/

namespace Remagic.Runner
open Fallible (ok_of_bind ok_of_for)

/-! ## Variables that change -/

/-- No variable under another name changes. -/
def Touches (keys : List String) (vars later : Variables) : Prop := ∀ key ∉ keys, later[key]? = vars[key]?

section
variable {keys : List String} {vars later : Variables} {key : String}

theorem insert_here (vars : Variables) (key value : String) : (vars.insert key value)[key]? = some value :=
  Std.ExtTreeMap.getElem?_insert_self

theorem insert_apart (vars : Variables) {key other : String} (value : String) (apart : key ≠ other) :
    (vars.insert key value)[other]? = vars[other]? := by
  simp [Std.ExtTreeMap.getElem?_insert, apart]

theorem Touches.refl (keys : List String) (vars : Variables) : Touches keys vars vars := fun _ _ => rfl

theorem Touches.trans {middle : Variables} (first : Touches keys vars middle) (second : Touches keys middle later) :
    Touches keys vars later := fun key outside => (second key outside).trans (first key outside)

theorem Touches.widen {more : List String} (touches : Touches keys vars later) (subset : keys ⊆ more) :
    Touches more vars later := fun key outside => touches key fun member => outside (subset member)

theorem Touches.insert (touches : Touches keys vars later) (member : key ∈ keys) (value : String) :
    Touches keys vars (later.insert key value) := fun other outside =>
  (insert_apart later value (ne_of_mem_of_not_mem member outside)).trans (touches other outside)

theorem Touches.insertSome (touches : Touches keys vars later) (member : key ∈ keys) (value : Option String) :
    Touches keys vars (insertSome later key value) := by
  cases value with
  | none => exact touches
  | some value => exact touches.insert member value

theorem touches_insertAll (vars : Variables) {pairs : List (String × String)} (named : pairs.map Prod.fst ⊆ keys) :
    Touches keys vars (vars.insertAll pairs) := fun _ outside =>
  Variables.insertAll_apart fun member => outside (named member)

end

/-! ## What is resolved -/

/-- The names that `resolve` may set. -/
def resolvedKeys : List String :=
  ["HOME", "XDG_CONFIG_HOME", "XDG_DATA_HOME", "XDG_STATE_HOME", "XDG_CACHE_HOME", "XDG_RUNTIME_DIR", "LANG", "TZ",
    "PATH", "REMAGIC_APP_ID", "REMAGIC_RUNTIME_PROFILE", "REMAGIC_DEVICE_PROFILE", "REMAGIC_NETWORK_POLICY_MODE",
    "REMAGIC_NETWORK_POLICY_ENFORCEMENT", "REMAGIC_NETWORK_ISOLATED", "REMAGIC_NETWORK_ALLOWED_HOSTS",
    "REMAGIC_NETWORK_LISTEN_PORT", "REMAGIC_LISTEN_ADDR", "LC_ALL", "FONTCONFIG_FILE", "QT_QPA_FONTDIR",
    "REMAGIC_FONT_DIRECTORIES", "SSL_CERT_FILE", "SSL_CERT_DIR", "QTFB_KEY", "LD_LIBRARY_PATH"]

section
variable (appId : AppId) (requirements : RuntimeRequirements) (vars : Variables)

theorem baseVariables_touches (directories : RuntimeDirectories) (platformPath : String) :
    Touches resolvedKeys vars (baseVariables appId requirements directories vars platformPath) := by
  unfold baseVariables
  refine .insert (.insert (.insert (.insert (.insert ?_ ?_ _) ?_ _) ?_ _) ?_ _) ?_ _
  case refine_1 => exact touches_insertAll vars (by simp [resolvedKeys])
  all_goals decide

theorem insertNetworkVariables_touches {enforcement : NetworkEnforcement} {later : Variables}
    (ok : insertNetworkVariables vars requirements enforcement = .ok later) : Touches resolvedKeys vars later := by
  obtain ⟨_, _, ok⟩ := ok_of_bind ok
  cases ok
  exact touches_insertAll vars (by simp [resolvedKeys])

theorem insertOptionalPolicyVariables_touches {later : Variables}
    (ok : insertOptionalPolicyVariables vars requirements = .ok later) : Touches resolvedKeys vars later := by
  unfold insertOptionalPolicyVariables at ok
  obtain ⟨fonts, found, ok⟩ := ok_of_bind ok
  cases ok
  have before : Touches resolvedKeys vars (insertSome (insertSome vars "LC_ALL" requirements.locale.lcAll) "FONTCONFIG_FILE"
      (requirements.fonts.fontconfigFile.map PathBuf.display)) :=
    ((Touches.refl _ vars).insertSome (by decide) _).insertSome (by decide) _
  have middle : Touches resolvedKeys vars fonts := by
    split at found
    · cases found
      exact before
    · obtain ⟨text, _, found⟩ := ok_of_bind found
      cases found
      exact (before.insert (by decide) text).insert (by decide) text
  exact (middle.insertSome (by decide) _).insertSome (by decide) _

theorem insertLoaderVariables_touches (resolvedLibraries : List PathBuf) :
    Touches resolvedKeys vars (insertLoaderVariables vars appId requirements resolvedLibraries) := by
  unfold insertLoaderVariables
  have keyed : Touches resolvedKeys vars (if requirements.profile = .qtfbCompat then
      vars.insert "QTFB_KEY" (toString (qtfbKeyForApp appId)) else vars) := by
    split
    · exact (Touches.refl _ vars).insert (by decide) _
    · exact .refl _ vars
  simp only
  split
  · exact keyed
  · exact keyed.insert (by decide) _

end

/-- What `resolve` returns is about the application it was asked about, and set its own names only. -/
structure Resolves (appId : AppId) (requirements : RuntimeRequirements) (application : Variables) (device : DeviceProfile)
    (resolved : LaunchEnvironment) : Prop where
  appId : resolved.appId = appId
  device : resolved.device = device
  profile : resolved.profile = requirements.profile
  directories : requirements.directories = some resolved.directories
  network : resolved.network = requirements.network
  touches : Touches resolvedKeys application resolved.vars

theorem resolve_resolves {appId : AppId} {requirements : RuntimeRequirements} {application : Variables}
    {resolvedLibraries : List PathBuf} {platformCapabilities : List String} {platformPath : String}
    {enforcement : NetworkEnforcement} {device : DeviceProfile} {resolved : LaunchEnvironment}
    (ok : LaunchEnvironment.resolve appId requirements application resolvedLibraries platformCapabilities platformPath
      enforcement device = .ok resolved) : Resolves appId requirements application device resolved := by
  obtain ⟨_, _, ok⟩ := ok_of_bind ok
  cases declared : requirements.directories with
  | none =>
    rw [declared] at ok
    cases ok
  | some directories =>
    rw [declared] at ok
    obtain ⟨_, _, ok⟩ := ok_of_bind ok
    obtain ⟨_, _, ok⟩ := ok_of_bind ok
    obtain ⟨profile, _, ok⟩ := ok_of_bind ok
    obtain ⟨networked, network, ok⟩ := ok_of_bind ok
    obtain ⟨optional, policies, ok⟩ := ok_of_bind ok
    obtain ⟨_, _, ok⟩ := ok_of_bind ok
    cases ok
    refine ⟨rfl, rfl, rfl, declared, rfl, ?_⟩
    have based := baseVariables_touches appId requirements application directories platformPath
    have described : Touches resolvedKeys application
        ((baseVariables appId requirements directories application platformPath).insert deviceProfileEnv profile) :=
      based.insert (by decide) profile
    refine described.trans (.trans (insertNetworkVariables_touches requirements _ network) ?_)
    exact .trans (insertOptionalPolicyVariables_touches requirements _ policies)
      (insertLoaderVariables_touches appId requirements _ resolvedLibraries)

/-! ## What is checked -/

theorem reject_ok {ε : Type} {condition : Prop} [Decidable condition] {error : ε} 
    (ok : reject condition error = .ok ()) : ¬ condition := by
  unfold reject at ok
  split at ok
  · cases ok
  · assumption

theorem required_ok {vars : Variables} {key value : String} (ok : vars.required key = .ok value) :
    vars[key]? = some value := by
  unfold Variables.required at ok
  split at ok
  · rename_i found there
    cases ok
    exact there
  · cases ok

theorem validateExact_ok {vars : Variables} {key expected : String} (ok : vars.validateExact key expected = .ok ()) :
    vars[key]? = some expected := by
  obtain ⟨actual, found, ok⟩ := ok_of_bind ok
  rw [← not_not.mp (reject_ok ok)]
  exact required_ok found

variable {environment : LaunchEnvironment} {path : PathBuf}

theorem validateDirectoryVariables_ok (ok : environment.validateDirectoryVariables = .ok ()) :
    ∃ text, environment.vars["XDG_DATA_HOME"]? = some text ∧
      (PathBuf.ofString text).same environment.directories.dataHome = true := by
  obtain ⟨_, looped, _⟩ := ok_of_bind ok
  have turned := ok_of_for ?yields looped ("XDG_DATA_HOME", environment.directories.dataHome) (by simp)
  case yields =>
    intro item step turn
    obtain ⟨_, _, turn⟩ := ok_of_bind turn
    obtain ⟨_, _, turn⟩ := ok_of_bind turn
    cases turn
    rfl
  obtain ⟨text, found, turned⟩ := ok_of_bind turned
  obtain ⟨_, same, _⟩ := ok_of_bind turned
  exact ⟨text, required_ok found, not_not.mp (reject_ok same)⟩

/-- What the checks of an environment say of the variables that an application reads. -/
structure Validated (environment : LaunchEnvironment) : Prop where
  appId : environment.vars["REMAGIC_APP_ID"]? = some environment.appId.value
  device : ∃ json, environment.device.json = .ok json ∧ environment.vars[deviceProfileEnv]? = some json
  dataHome : ∃ text, environment.vars["XDG_DATA_HOME"]? = some text ∧
    (PathBuf.ofString text).same environment.directories.dataHome = true
  address : environment.vars["REMAGIC_LISTEN_ADDR"]? = some (listenAddress environment.network)
  key : environment.profile ≠ .qtfbCompat → environment.vars["QTFB_KEY"]? = none

theorem validateIdentityVariables_ok (ok : environment.validateIdentityVariables = .ok ()) :
    environment.vars["REMAGIC_APP_ID"]? = some environment.appId.value ∧
      (∃ json, environment.device.json = .ok json ∧ environment.vars[deviceProfileEnv]? = some json) ∧
      (environment.profile ≠ .qtfbCompat → environment.vars["QTFB_KEY"]? = none) := by
  obtain ⟨_, named, ok⟩ := ok_of_bind ok
  obtain ⟨_, _, ok⟩ := ok_of_bind ok
  obtain ⟨json, encoded, ok⟩ := ok_of_bind ok
  obtain ⟨_, described, ok⟩ := ok_of_bind ok
  obtain ⟨_, _, ok⟩ := ok_of_bind ok
  refine ⟨validateExact_ok named, ⟨json, ?_, validateExact_ok described⟩, fun other => ?_⟩
  · unfold DeviceProfile.encoded at encoded
    split at encoded
    · rename_i found
      cases encoded
      exact found
    · cases encoded
  · cases profile : environment.profile with
    | qtfbCompat => exact absurd profile other
    | nativeV2 | headless =>
      rw [profile] at ok
      have unset := reject_ok ok
      rwa [Bool.not_eq_true, Option.isSome_eq_false_iff, Option.isNone_iff_eq_none] at unset

theorem validate_validated (ok : environment.validate = .ok ()) : Validated environment := by
  obtain ⟨_, _, ok⟩ := ok_of_bind ok
  obtain ⟨_, _, ok⟩ := ok_of_bind ok
  obtain ⟨_, directories, ok⟩ := ok_of_bind ok
  obtain ⟨_, network, ok⟩ := ok_of_bind ok
  obtain ⟨_, identity, ok⟩ := ok_of_bind ok
  obtain ⟨named, described, keyed⟩ := validateIdentityVariables_ok identity
  refine ⟨named, described, validateDirectoryVariables_ok directories, ?_, keyed⟩
  obtain ⟨_, _, network⟩ := ok_of_bind network
  obtain ⟨_, _, network⟩ := ok_of_bind network
  obtain ⟨_, _, network⟩ := ok_of_bind network
  obtain ⟨_, address, _⟩ := ok_of_bind network
  exact validateExact_ok address

/-! ## What is set over it -/

theorem toList_loop (bytes : ByteArray) (i : Nat) (read : List UInt8) :
    ByteArray.toList.loop bytes i read = read.reverse ++ bytes.data.toList.drop i := by
  induction i, read using ByteArray.toList.loop.induct bytes with
  | case1 i read inside ih =>
    have here : i < bytes.data.toList.length := by simpa using inside
    have first : bytes.get! i = bytes.data.toList[i] := by
      cases bytes with
      | mk data => simp [ByteArray.get!, getElem!_pos data i (by simpa using here)]
    unfold ByteArray.toList.loop
    rw [if_pos inside, ih, first, List.reverse_cons, List.append_assoc, List.drop_eq_getElem_cons here]
    rfl
  | case2 i read outside =>
    have past : bytes.data.toList.length ≤ i := by simpa using outside
    unfold ByteArray.toList.loop
    rw [if_neg outside, List.drop_eq_nil_of_le past, List.append_nil]

theorem text?_path {text : String} (valid : path.text? = some text) : PathBuf.ofString text = path := by
  unfold PathBuf.text? String.fromUTF8? at valid
  split at valid
  · cases valid
    exact toList_loop ⟨path.toArray⟩ 0 []
  · cases valid
namespace Executor
variable {σ : Type} {system : System σ} {files : σ} {vars : Variables} {result : Variables × σ}
  {platform : PlatformRuntime} {qtfbKey : Option Int} {capabilities : List String}

/-- Where it succeeds, the job sets only these names. -/
def Sets (keys : List String) (job : Variables → Job σ Variables) : Prop :=
  ∀ vars files result, (job vars).run files = .ok result → Touches keys vars result.1

theorem pathText_accepted {found : String × σ} (ok : (pathText path).run files = .ok found) :
    PathBuf.ofString found.1 = path := by
  unfold pathText at ok
  split at ok
  · rename_i text valid
    cases ok
    exact text?_path valid
  · cases ok

theorem insertTokenVariables_touches (system : System σ) (vars : Variables) (appId : AppId) (generation : Option Nat)
    (descriptor : LaunchDescriptor) : Touches ["REMAGIC_APP_GENERATION", "REMAGIC_APP_TOKEN"] vars
      (insertTokenVariables system vars appId generation descriptor) := by
  cases generation with
  | none => exact .refl _ vars
  | some generation => exact ((Touches.refl _ vars).insert (by decide) _).insert (by decide) _

theorem insertDescriptorVariables_touches (system : System σ) (vars : Variables) (descriptor : LaunchDescriptor) :
    Touches ["REMAGIC_FOREGROUND_EPOCH", "REMAGIC_DISPLAY_LEASE_ID", "REMAGIC_RESUME_PAYLOAD"] vars
      (insertDescriptorVariables system vars descriptor) :=
  (((Touches.refl _ vars).insertSome (by decide) _).insertSome (by decide) _).insertSome (by decide) _

/-- What `insert_platform_variables` sets of what an application reads. -/
structure Platformed (platform : PlatformRuntime) (qtfbKey : Option Int) (vars : Variables) : Prop where
  managed : vars["REMAGIC_MANAGED"]? = some "1"
  socket : vars["REMAGIC_SOCKET"]? = some defaultSocket
  key : ∀ key, qtfbKey = some key → vars["QTFB_KEY"]? = some (toString key)
  surface : ∀ key, qtfbKey = some key → ∃ text, vars["REMAGIC_QTFB_SOCKET"]? = some text ∧
    PathBuf.ofString text = platform.qtfbSocket

/-- The names that `insert_platform_variables` may set. -/
def platformKeys : List String :=
  ["PATH", "QTFB_KEY", "REMAGIC_QTFB_SOCKET", "REMAGIC_SOCKET", "REMAGIC_APP_ID", "REMAGIC_LAUNCH_ID", "REMAGIC_MANAGED",
    "REMAGIC_APP_GENERATION", "REMAGIC_APP_TOKEN", "REMAGIC_FOREGROUND_EPOCH", "REMAGIC_DISPLAY_LEASE_ID",
    "REMAGIC_RESUME_PAYLOAD"]

/-- The names that every launch gets, once the surface is set. -/
def insertNames (system : System σ) (appId : AppId) (vars : Variables) : Variables :=
  (((vars.insert "REMAGIC_SOCKET" defaultSocket).insert "REMAGIC_APP_ID" appId.value).insert
    "REMAGIC_LAUNCH_ID" s!"{appId.value}-{system.processId}").insert "REMAGIC_MANAGED" "1"

theorem insertNames_touches (system : System σ) (appId : AppId) (vars : Variables) :
    Touches ["REMAGIC_SOCKET", "REMAGIC_APP_ID", "REMAGIC_LAUNCH_ID", "REMAGIC_MANAGED"] vars (insertNames system appId vars) :=
  ((((Touches.refl _ vars).insert (by decide) _).insert (by decide) _).insert (by decide) _).insert (by decide) _

theorem insertSurface_accepted (ok : (match qtfbKey with
      | none => pure vars
      | some key => do
        let vars := vars.insert "QTFB_KEY" (toString key)
        pure (vars.insert "REMAGIC_QTFB_SOCKET" (← pathText platform.qtfbSocket)) : Job σ Variables).run files = .ok result) :
    Touches ["QTFB_KEY", "REMAGIC_QTFB_SOCKET"] vars result.1 ∧ ∀ key, qtfbKey = some key →
      result.1["QTFB_KEY"]? = some (toString key) ∧
      ∃ text, result.1["REMAGIC_QTFB_SOCKET"]? = some text ∧ PathBuf.ofString text = platform.qtfbSocket := by
  cases qtfbKey with
  | none =>
    cases ok
    exact ⟨.refl _ vars, nofun⟩
  | some key =>
    obtain ⟨text, between, texted, ok⟩ := bind_accepted ok
    cases ok
    refine ⟨((Touches.refl _ vars).insert (by decide) _).insert (by decide) _, fun other same => ?_⟩
    cases same
    exact ⟨(insert_apart _ _ (by decide)).trans (insert_here _ _ _), text, insert_here _ _ _, pathText_accepted texted⟩

theorem insertPlatformVariables_accepted {appId : AppId} {generation : Option Nat} {descriptor : LaunchDescriptor}
    (ok : (insertPlatformVariables system vars appId generation qtfbKey descriptor platform).run files = .ok result) :
    Platformed platform qtfbKey result.1 ∧ Touches platformKeys vars result.1 := by
  obtain ⟨keyed, between, keying, ok⟩ := bind_accepted ok
  cases ok
  obtain ⟨opened, surface⟩ := insertSurface_accepted keying
  have named := insertNames_touches system appId keyed
  have tokened := insertTokenVariables_touches system (insertNames system appId keyed) appId generation descriptor
  have described := insertDescriptorVariables_touches system
    (insertTokenVariables system (insertNames system appId keyed) appId generation descriptor) descriptor
  -- The tokens touch none of the names that the application reads.
  have kept : Touches ["REMAGIC_APP_GENERATION", "REMAGIC_APP_TOKEN", "REMAGIC_FOREGROUND_EPOCH", "REMAGIC_DISPLAY_LEASE_ID",
      "REMAGIC_RESUME_PAYLOAD"] (insertNames system appId keyed) (insertDescriptorVariables system (insertTokenVariables system
        (insertNames system appId keyed) appId generation descriptor) descriptor) :=
    (tokened.widen (by decide)).trans (described.widen (by decide))
  have managed := (kept "REMAGIC_MANAGED" (by decide)).trans (insert_here _ _ _)
  refine ⟨⟨managed, ?socket, fun key same => ?key, fun key same => ?surface⟩, ?touches⟩
  case socket =>
    refine (kept _ (by decide)).trans ?_
    exact (insert_apart _ _ (by decide)).trans ((insert_apart _ _ (by decide)).trans ((insert_apart _ _ (by decide)).trans
      (insert_here _ _ _)))
  case key => exact (kept _ (by decide)).trans ((named _ (by decide)).trans (surface key same).1)
  case surface =>
    obtain ⟨text, found, path⟩ := (surface key same).2
    exact ⟨text, (kept _ (by decide)).trans ((named _ (by decide)).trans found), path⟩
  case touches =>
    have pathed : Touches platformKeys vars (vars.insert "PATH" platform.path) := (Touches.refl _ vars).insert (by decide) _
    exact pathed.trans ((opened.widen (by decide)).trans ((named.widen (by decide)).trans (kept.widen (by decide))))

theorem insertFontDirectories_sets (fontDirectories : List PathBuf) :
    Sets ["QT_QPA_FONTDIR", "REMAGIC_FONT_DIRECTORIES"]
      fun vars => (insertFontDirectories vars fontDirectories : Job σ Variables) := by
  intro vars files result ok
  unfold insertFontDirectories at ok
  split at ok
  · cases ok
    exact .refl _ vars
  · obtain ⟨text, between, _, ok⟩ := bind_accepted ok
    cases ok
    exact ((Touches.refl _ vars).insert (by decide) _).insert (by decide) _

/-- A shared place is named if and only if the application may write it. -/
theorem insertSharedStorage_accepted {capability key : String}
    (ok : (insertSharedStorage system vars capabilities capability key path).run files = .ok result) :
    (capability ∉ capabilities → result.1 = vars) ∧ (capability ∈ capabilities → ∃ text,
      result.1 = vars.insert key text ∧ PathBuf.ofString text = path) := by
  unfold insertSharedStorage at ok
  split at ok
  · rename_i absent
    cases ok
    exact ⟨fun _ => rfl, fun declared => absurd declared absent⟩
  · rename_i declared
    obtain ⟨_, created, _, ok⟩ := bind_accepted ok
    obtain ⟨_, owned, _, ok⟩ := bind_accepted ok
    obtain ⟨text, between, texted, ok⟩ := bind_accepted ok
    cases ok
    exact ⟨fun absent => absurd (not_not.mp declared) absent, fun _ => ⟨text, rfl, pathText_accepted texted⟩⟩

/-- The variable names this place, if the application may write it, and nothing else does. -/
def Places (vars : Variables) (key : String) (declared : Prop) (path : PathBuf) : Prop :=
  (¬ declared → vars[key]? = none) ∧ (declared → ∃ text, vars[key]? = some text ∧ PathBuf.ofString text = path)

theorem Places.of_same {later : Variables} {key : String} {declared : Prop} (places : Places vars key declared path)
    (same : later[key]? = vars[key]?) : Places later key declared path := by
  unfold Places
  rw [same]
  exact places

theorem insertSharedStorage_places {capability key : String}
    (ok : (insertSharedStorage system vars capabilities capability key path).run files = .ok result)
    (unset : vars[key]? = none) : Places result.1 key (capability ∈ capabilities) path := by
  obtain ⟨absent, declared⟩ := insertSharedStorage_accepted ok
  refine ⟨fun missing => ?_, fun present => ?_⟩
  · rw [absent missing]
    exact unset
  · obtain ⟨text, same, path⟩ := declared present
    exact ⟨text, by rw [same, insert_here], path⟩

theorem insertSharedStorage_sets (capabilities : List String) (capability key : String) (path : PathBuf) :
    Sets [key] fun vars => insertSharedStorage system vars capabilities capability key path := by
  intro vars files result ok
  obtain ⟨absent, declared⟩ := insertSharedStorage_accepted ok
  by_cases present : capability ∈ capabilities
  · obtain ⟨text, same, _⟩ := declared present
    rw [same]
    exact (Touches.refl _ vars).insert List.mem_cons_self text
  · rw [absent present]
    exact .refl _ vars

def booksPlace (platform : PlatformRuntime) : PathBuf :=
  platform.homeRoot.join (.ofString ".local/share/remarkable/xochitl")

def wallpapersPlace (platform : PlatformRuntime) : PathBuf :=
  platform.homeRoot.join (.ofString ".local/share/remagic/wallpapers")

/-- What `append_platform_variables` sets of what an application reads. -/
structure Appended (capabilities : List String) (platform : PlatformRuntime) (qtfbKey : Option Int) (vars : Variables) : Prop
    extends Platformed platform qtfbKey vars where
  books : Places vars "REMAGIC_BOOKS_DIR" ("storage:books-write-v1" ∈ capabilities) (booksPlace platform)
  wallpapers : Places vars "REMAGIC_WALLPAPERS_DIR" ("storage:wallpapers-write-v1" ∈ capabilities) (wallpapersPlace platform)

theorem Platformed.later {later : Variables} {keys : List String} (platformed : Platformed platform qtfbKey vars)
    (touches : Touches keys vars later)
    (apart : ∀ key ∈ ["REMAGIC_MANAGED", "REMAGIC_SOCKET", "QTFB_KEY", "REMAGIC_QTFB_SOCKET"], key ∉ keys) :
    Platformed platform qtfbKey later where
  managed := (touches _ (apart _ (by decide))).trans platformed.managed
  socket := (touches _ (apart _ (by decide))).trans platformed.socket
  key key found := (touches _ (apart _ (by decide))).trans (platformed.key key found)
  surface key found := by
    obtain ⟨text, set, path⟩ := platformed.surface key found
    exact ⟨text, (touches _ (apart _ (by decide))).trans set, path⟩

/-- The names that are set after those of the platform. -/
def appendedKeys : List String :=
  ["REMAGIC_RUNTIME_DIR", "QT_QPA_FONTDIR", "REMAGIC_FONT_DIRECTORIES", "LD_LIBRARY_PATH"]

theorem appendPlatformVariables_accepted {appId : AppId} {generation : Option Nat}
    {descriptor : LaunchDescriptor} {directories : RuntimeDirectories} {fontDirectories resolvedLibraries : List PathBuf}
    (ok : (appendPlatformVariables system vars appId generation qtfbKey descriptor directories fontDirectories
      resolvedLibraries capabilities platform).run files = .ok result)
    (books : vars["REMAGIC_BOOKS_DIR"]? = none) (wallpapers : vars["REMAGIC_WALLPAPERS_DIR"]? = none) :
    Appended capabilities platform qtfbKey result.1 ∧
      result.1["REMAGIC_LIFECYCLE_FD"]? = vars["REMAGIC_LIFECYCLE_FD"]? := by
  obtain ⟨platformVars, _, setting, ok⟩ := bind_accepted ok
  obtain ⟨platformed, touches⟩ := insertPlatformVariables_accepted setting
  obtain ⟨runtimeDir, _, _, ok⟩ := bind_accepted ok
  obtain ⟨fonted, _, fonts, ok⟩ := bind_accepted ok
  obtain ⟨libraryPath, _, _, ok⟩ := bind_accepted ok
  obtain ⟨booked, _, booking, papering⟩ := bind_accepted ok
  have directed : Touches appendedKeys platformVars (platformVars.insert "REMAGIC_RUNTIME_DIR" runtimeDir) :=
    (Touches.refl _ platformVars).insert (by decide) runtimeDir
  have between : Touches appendedKeys platformVars (fonted.insert "LD_LIBRARY_PATH" libraryPath) :=
    (directed.trans ((insertFontDirectories_sets fontDirectories _ _ _ fonts).widen (by decide))).insert (by decide) libraryPath
  have booked' := insertSharedStorage_sets _ _ _ _ _ _ _ booking
  have papered := insertSharedStorage_sets _ _ _ _ _ _ _ papering
  have last : Touches ("REMAGIC_BOOKS_DIR" :: "REMAGIC_WALLPAPERS_DIR" :: appendedKeys) platformVars result.1 :=
    (between.widen (by decide)).trans ((booked'.widen (by decide)).trans (papered.widen (by decide)))
  refine ⟨⟨platformed.later last (by decide), ?_, ?_⟩, ?_⟩
  · refine (insertSharedStorage_places booking ?_).of_same (papered _ (by decide))
    exact (between _ (by decide)).trans ((touches _ (by decide)).trans books)
  · refine insertSharedStorage_places papering ?_
    exact (booked' _ (by decide)).trans ((between _ (by decide)).trans ((touches _ (by decide)).trans wallpapers))
  · exact (last _ (by decide)).trans (touches _ (by decide))

end Executor
end Remagic.Runner
