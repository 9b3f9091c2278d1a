import Remagic.PackageRuns
import Remagic.Records

/-!
# What the content digest stands for

The digest that names a release is taken of one text: the bundle's identifiers, its
version and a line for each file, with NULs between the fields. The version is the only
field of it that may hold a NUL itself. Two bundles that pass every check and give the
same text have the same identifiers, version, manifest and inventory, unless their two
manifests share a hash.
-/

namespace Remagic.Package
open Tasks Job
open Fallible (ok_of_bind ok_of_guard mapM_ok)

variable {Content : Type} {formats : Formats Content} {archive : List (ArchiveEntry Content)}
  {prepared : PreparedPackage Content}

/-- What the content digest is taken of, as `verify_inventory` puts it together. -/
def contentText (formats : Formats Content) (tree : Tree Content) (place : Place) (bundle : BundleV1) :
    Except PackageError String := do
  let lines ← (ordered bundle.files).mapM (verifyFile formats tree place)
  return contentHeader bundle ++ String.join lines

/-- A tree that a file system can hold: no name has a NUL. -/
def Named (tree : Tree Content) : Prop := ∀ path ∈ tree, '\x00' ∉ path.toList

/-- A bundle that passed every check, with the text that its content digest was taken of. -/
inductive Accepted (formats : Formats Content) (prepared : PreparedPackage Content) (text : String) : Prop where
  | verified (stageRoot : String) (device : DeviceProfile) (tree : Tree Content) (named : Named tree)
      (ok : verifyStage formats stageRoot device tree = .ok prepared)
      (taken : contentText formats tree (.stage stageRoot) prepared.bundle = .ok text)

/-- A file's record in the inventory, with its mode as the bits that it grants. -/
structure InventoryEntry where
  path : String
  mode : Nat
  size : Nat
  sha256 : String
  deriving DecidableEq

def BundleFileV1.entry (file : BundleFileV1) : InventoryEntry :=
  ⟨file.path, (parseMode file.mode).getD 0, file.size, file.sha256⟩

/-- The inventory, in the order of its paths. -/
def BundleV1.inventory (bundle : BundleV1) : List InventoryEntry := (ordered bundle.files).map BundleFileV1.entry

structure SameContent (left right : PreparedPackage Content) : Prop where
  version : left.bundle.version = right.bundle.version
  manifest : left.manifest = right.manifest
  manifestBytes : left.manifestBytes = right.manifestBytes
  inventory : left.bundle.inventory = right.bundle.inventory

/-- Two contents that share a hash. -/
def Collision (formats : Formats Content) (left right : Content) : Prop :=
  left ≠ right ∧ formats.sha256 left = formats.sha256 right

/-! ## The fields of a line -/

/-- The fields of a file's line. -/
def InventoryEntry.record (entry : InventoryEntry) : Records.Record Char :=
  ⟨entry.path.toList, [Nat.toDigits 8 entry.mode, (toString entry.size).toList], entry.sha256.toList⟩

theorem canonical_toList (file : BundleFileV1) (mode : Nat) :
    (canonical file mode).toList =
      (InventoryEntry.record ⟨file.path, mode, file.size, file.sha256⟩).text '\x00' '\n' := by
  simp [canonical, InventoryEntry.record, Records.Record.text]

theorem toDigits_injective {base left right : Nat} (large : 1 < base) (small : base ≤ 10)
    (same : Nat.toDigits base left = Nat.toDigits base right) : left = right := by
  rw [← Nat.ofDigitChars_toDigits (n := left) large small, same, Nat.ofDigitChars_toDigits large small]

theorem record_injective : Function.Injective InventoryEntry.record := by
  rintro ⟨path, mode, size, sha256⟩ ⟨path', mode', size', sha256'⟩ same
  obtain ⟨paths, middles, hashes⟩ := Records.Record.mk.inj same
  obtain ⟨modes, sizes⟩ := List.cons.inj middles
  have digits : Nat.toDigits 10 size = Nat.toDigits 10 size' := by
    simpa [toString, Nat.toList_repr] using (List.cons.inj sizes).1
  obtain rfl : path = path' := String.toList_inj.mp paths
  obtain rfl : mode = mode' := toDigits_injective (by decide) (by decide) modes
  obtain rfl : size = size' := toDigits_injective (by decide) (by decide) digits
  obtain rfl : sha256 = sha256' := String.toList_inj.mp hashes
  rfl

theorem nul_notMem_toDigits {base n : Nat} (positive : 0 < base) (small : base ≤ 10) :
    '\x00' ∉ Nat.toDigits base n := by
  intro member
  exact absurd (Nat.isDigit_of_mem_toDigits positive small member) (by decide)

/-- Neither what ends a line nor what separates its fields is in a hash. -/
theorem notMem_of_lowerHex64 {value : String} (hex : lowerHex64 value = true) :
    '\x00' ∉ value.toList ∧ '\n' ∉ value.toList := by
  simp only [lowerHex64, Bool.and_eq_true, List.all_eq_true] at hex
  exact ⟨fun member => absurd (hex.2 _ member) (by decide), fun member => absurd (hex.2 _ member) (by decide)⟩

theorem nul_notMem_of_safeIdentifier {value : String} (safe : safeIdentifier value = true) :
    '\x00' ∉ value.toList := by
  simp only [safeIdentifier, Bool.and_eq_true, List.all_eq_true] at safe
  exact fun member => absurd (safe.2 _ member) (by decide)

theorem record_proper {entry : InventoryEntry} (named : '\x00' ∉ entry.path.toList)
    (hex : lowerHex64 entry.sha256 = true) :
    entry.record.Proper '\x00' '\n' 2 where
  first := named
  middle := by
    intro field member
    rcases List.mem_pair.mp member with rfl | rfl
    · exact nul_notMem_toDigits (by decide) (by decide)
    · rw [toString, instToStringNat, Nat.toList_repr]
      exact nul_notMem_toDigits (by decide) (by decide)
  last := (notMem_of_lowerHex64 hex).1
  ends := (notMem_of_lowerHex64 hex).2
  length := rfl

/-! ## What the checks leave -/

section
variable {tree : Tree Content} {place : Place} {bundle : BundleV1} {text : String} {files : List BundleFileV1}

theorem verifyFile_ok {file : BundleFileV1} {line : String} (ok : verifyFile formats tree place file = .ok line) :
    (∃ found, tree.lookup file.path = some found ∧ formats.sha256 found.content = file.sha256) ∧
      line.toList = file.entry.record.text '\x00' '\n' := by
  unfold verifyFile at ok
  cases present : tree.lookup file.path with
  | none =>
    rw [present] at ok
    cases ok
  | some found =>
    cases parsed : parseMode file.mode with
    | none =>
      rw [present, parsed] at ok
      cases ok
    | some mode =>
      simp only [present, parsed] at ok
      split at ok
      · cases ok
      · rename_i fits
        cases ok
        simp only [ne_eq, Bool.or_eq_true, decide_eq_true_eq, not_or, not_not] at fits
        refine ⟨⟨found, rfl, fits.2⟩, ?_⟩
        rw [canonical_toList, fits.1.2, BundleFileV1.entry, parsed]
        rfl

theorem lines_toList {lines : List String}
    (verified : List.Forall₂ (fun file line => verifyFile formats tree place file = .ok line) files lines) :
    (String.join lines).toList =
      Records.body '\x00' '\n' ((files.map BundleFileV1.entry).map InventoryEntry.record) := by
  rw [String.toList_join, Records.body]
  induction verified with
  | nil => rfl
  | cons one _ ih =>
    rw [List.flatMap_cons, List.map_cons, List.map_cons, List.flatMap_cons, (verifyFile_ok one).2, ih]

/-- The text: the header, and then the records of the inventory. -/
theorem contentText_toList (taken : contentText formats tree place bundle = .ok text) :
    text.toList = (contentHeader bundle).toList ++
      Records.body '\x00' '\n' (bundle.inventory.map InventoryEntry.record) := by
  obtain ⟨lines, ok, taken⟩ := ok_of_bind taken
  cases taken
  rw [String.toList_append, lines_toList (mapM_ok ok), BundleV1.inventory]

theorem found_of_lines {lines : List String}
    (verified : List.Forall₂ (fun file line => verifyFile formats tree place file = .ok line) files lines)
    {file : BundleFileV1} (member : file ∈ files) :
    ∃ found, tree.lookup file.path = some found ∧ formats.sha256 found.content = file.sha256 := by
  induction verified with
  | nil => exact absurd member List.not_mem_nil
  | cons one _ ih =>
    rcases List.mem_cons.mp member with rfl | later
    · exact (verifyFile_ok one).1
    · exact ih later

/-- Every file of the inventory is in the tree, with its hash. -/
theorem contentText_found (taken : contentText formats tree place bundle = .ok text) {file : BundleFileV1}
    (member : file ∈ bundle.files) :
    ∃ found, tree.lookup file.path = some found ∧ formats.sha256 found.content = file.sha256 := by
  obtain ⟨lines, ok, -⟩ := ok_of_bind taken
  exact found_of_lines (mapM_ok ok) ((List.perm_insertionSort _ _).mem_iff.mpr member)

theorem verifyInventory_taken (ok : verifyInventory formats tree place bundle = .ok ()) :
    ∃ text, contentText formats tree place bundle = .ok text ∧ formats.digest text = bundle.contentId := by
  unfold verifyInventory at ok
  obtain ⟨-, ok⟩ := ok_of_guard ok
  obtain ⟨lines, verified, ok⟩ := ok_of_bind ok
  obtain ⟨-, ok⟩ := ok_of_guard ok
  refine ⟨contentHeader bundle ++ String.join lines, ?_, ?_⟩
  · rw [contentText, verified]
    rfl
  · by_contra differs
    rw [if_pos differs] at ok
    cases ok

theorem validateFiles_ok {paths seen : List String} (ok : validateFiles files paths = .ok seen) :
    (∀ file ∈ files, lowerHex64 file.sha256 = true) ∧
      ∀ path ∈ seen, path ∈ paths ∨ ∃ file ∈ files, file.path = path := by
  induction files generalizing paths with
  | nil =>
    cases ok
    exact ⟨fun _ none => absurd none List.not_mem_nil, fun _ member => .inl member⟩
  | cons file rest ih =>
    unfold validateFiles at ok
    split at ok
    · cases ok
    · rename_i fine
      simp only [Bool.or_eq_true, Bool.not_eq_true', not_or, Bool.not_eq_false] at fine
      obtain ⟨hashes, listed⟩ := ih ok
      refine ⟨?_, ?_⟩
      · intro one member
        rcases List.mem_cons.mp member with rfl | later
        · exact fine.1.2
        · exact hashes one later
      · intro path member
        rcases listed path member with earlier | ⟨one, later, named⟩
        · rcases List.mem_cons.mp earlier with rfl | earlier
          · exact .inr ⟨file, List.mem_cons_self, rfl⟩
          · exact .inl earlier
        · exact .inr ⟨one, List.mem_cons_of_mem _ later, named⟩

theorem validateBundle_ok (ok : validateBundle bundle = .ok ()) :
    safeIdentifier bundle.appId = true ∧ safeIdentifier bundle.package = true ∧ bundle.manifestPath = "manifest.toml" ∧
      (∀ file ∈ bundle.files, lowerHex64 file.sha256 = true) ∧ ∃ file ∈ bundle.files, file.path = "manifest.toml" := by
  unfold validateBundle at ok
  obtain ⟨-, ok⟩ := ok_of_guard ok
  obtain ⟨identified, ok⟩ := ok_of_guard ok
  obtain ⟨described, ok⟩ := ok_of_guard ok
  obtain ⟨paths, validated, ok⟩ := ok_of_bind ok
  have listed : ¬ (!paths.contains bundle.manifestPath) = true := by
    intro missing
    rw [if_pos missing] at ok
    cases ok
  simp only [Bool.or_eq_true, Bool.not_eq_true', not_or, Bool.not_eq_false, decide_eq_true_eq, not_not, ne_eq]
    at identified described listed
  obtain ⟨hashes, seen⟩ := validateFiles_ok validated
  have manifest := described.1.2
  refine ⟨identified.1, identified.2, manifest, hashes, ?_⟩
  rcases seen bundle.manifestPath (by simpa using listed) with none | ⟨file, member, named⟩
  · exact absurd none List.not_mem_nil
  · exact ⟨file, member, named.trans manifest⟩

theorem validateManifestContract_ok {manifest : AppManifest} {device : DeviceProfile}
    (ok : validateManifestContract bundle manifest device = .ok ()) : manifest.version = bundle.version := by
  unfold validateManifestContract at ok
  obtain ⟨identical, -⟩ := ok_of_guard ok
  simp only [ne_eq, Bool.or_eq_true, decide_eq_true_eq, not_or, not_not] at identical
  exact identical.2

theorem readLimited_ok {limit : Nat} {path : String} {content : Content}
    (ok : readLimited formats place limit path tree = .ok content) :
    ∃ file, tree.lookup path = some file ∧ file.content = content := by
  unfold readLimited at ok
  cases present : tree.lookup path with
  | none =>
    rw [present] at ok
    cases ok
  | some file =>
    simp only [present] at ok
    split at ok
    · cases ok
    · cases ok
      exact ⟨file, rfl, rfl⟩

end

/-- What the checks leave of a bundle, its manifest and the text of its content digest. -/
structure Checked (formats : Formats Content) (prepared : PreparedPackage Content) (text : String) : Prop where
  appId : '\x00' ∉ prepared.bundle.appId.toList
  package : '\x00' ∉ prepared.bundle.package.toList
  text : text.toList = (contentHeader prepared.bundle).toList ++
    Records.body '\x00' '\n' (prepared.bundle.inventory.map InventoryEntry.record)
  proper : ∀ entry ∈ prepared.bundle.inventory, entry.record.Proper '\x00' '\n' 2
  listed : ∃ entry ∈ prepared.bundle.inventory, entry.path = "manifest.toml"
  hashed : ∀ entry ∈ prepared.bundle.inventory, entry.path = "manifest.toml" →
    formats.sha256 prepared.manifestBytes = entry.sha256
  parsed : formats.manifest prepared.manifestBytes = .ok prepared.manifest
  version : prepared.manifest.version = prepared.bundle.version

theorem mem_inventory {bundle : BundleV1} {entry : InventoryEntry} :
    entry ∈ bundle.inventory ↔ ∃ file ∈ bundle.files, file.entry = entry := by
  simp only [BundleV1.inventory, List.mem_map]
  exact exists_congr fun file => and_congr_left fun _ => (List.perm_insertionSort _ _).mem_iff

theorem Accepted.checked {text : String} (accepted : Accepted formats prepared text) : Checked formats prepared text := by
  obtain ⟨stageRoot, device, tree, named, ok, taken⟩ := accepted
  obtain ⟨bundleBytes, _, ok⟩ := ok_of_bind ok
  cases described : formats.bundle bundleBytes with
  | error message =>
    rw [described] at ok
    cases ok
  | ok bundle =>
    rw [described] at ok
    obtain ⟨_, validated, ok⟩ := ok_of_bind ok
    obtain ⟨_, _, ok⟩ := ok_of_bind ok
    obtain ⟨manifestBytes, read, ok⟩ := ok_of_bind ok
    cases parsed : formats.manifest manifestBytes with
    | error message =>
      rw [parsed] at ok
      cases ok
    | ok manifest =>
      rw [parsed] at ok
      obtain ⟨_, contract, ok⟩ := ok_of_bind ok
      cases ok
      obtain ⟨appId, package, manifestPath, hashes, file, member, listed⟩ := validateBundle_ok validated
      rw [manifestPath] at read
      obtain ⟨manifestFile, present, rfl⟩ := readLimited_ok read
      refine ⟨nul_notMem_of_safeIdentifier appId, nul_notMem_of_safeIdentifier package, contentText_toList taken, ?_,
        ⟨file.entry, mem_inventory.mpr ⟨file, member, rfl⟩, listed⟩, ?_, parsed, validateManifestContract_ok contract⟩
      · intro entry inventoried
        obtain ⟨one, member, rfl⟩ := mem_inventory.mp inventoried
        obtain ⟨found, there, -⟩ := contentText_found taken member
        have spelled : '\x00' ∉ one.path.toList := named _ (AList.lookup_isSome.mp (by rw [there]; rfl))
        exact record_proper spelled (hashes one member)
      · intro entry inventoried path
        obtain ⟨one, member, rfl⟩ := mem_inventory.mp inventoried
        obtain ⟨found, there, hashed⟩ := contentText_found taken member
        have path : one.path = "manifest.toml" := path
        rw [path, present] at there
        cases there
        exact hashed

/-! ## Preparing a bundle -/

theorem TakenFrom.named {tree : Tree Content} (taken : TakenFrom archive tree) : Named tree := by
  intro path member
  obtain ⟨file, found⟩ := Option.isSome_iff_exists.mp (AList.lookup_isSome.mpr member)
  obtain ⟨entry, unpacked⟩ := taken path file found
  exact unpacked.spelled

/-- A stage of the archive that passed every check was accepted. -/
theorem StagedFrom.accepted {disk : Disk Content} (staged : StagedFrom formats archive prepared disk) :
    ∃ text, Accepted formats prepared text ∧ formats.digest text = prepared.bundle.contentId := by
  obtain ⟨device, tree, -, ok, unpacked⟩ := staged
  obtain ⟨text, taken, digested⟩ := verifyInventory_taken (verifyStage_ok ok).2.2
  exact ⟨text, .verified prepared.stageRoot device tree unpacked.named ok taken, digested⟩

/-- Whatever a preparation that succeeds answers was accepted. -/
theorem prepare_accepted {stageRoot : String} {device : DeviceProfile} {answers : List Answer} {disk : Disk Content}
    (finished : ((prepare formats archive stageRoot device).trace answers disk).result = some (.ok prepared)) :
    ∃ text, Accepted formats prepared text ∧ formats.digest text = prepared.bundle.contentId := by
  have keeps : Keeps (fun _ => True) (fun _ _ => True) (fun _ _ _ => True)
      (fun prepared _ d => True ∧ StagedFrom formats archive prepared d) (prepare formats archive stageRoot device) [] disk :=
    keeps_prepare_of (fun _ _ _ _ _ => trivial) (fun _ _ => trivial) (keeps_nothing recoverAll) stageRoot device
  exact (keeps.ends (fun _ _ => trivial) finished).2.accepted

/-! ## Equal texts -/

theorem separated_toList {lead first second third nul : String} (single : nul.toList = ['\x00']) (rest : List Char) :
    (lead ++ first ++ nul ++ second ++ nul ++ third ++ nul).toList ++ rest =
      lead.toList ++ (first.toList ++ '\x00' :: (second.toList ++ '\x00' :: (third.toList ++ '\x00' :: rest))) := by
  simp only [String.toList_append, single, List.append_assoc, List.cons_append, List.nil_append]

theorem contentHeader_toList (bundle : BundleV1) (rest : List Char) :
    (contentHeader bundle).toList ++ rest = "remagic-bundle-content-v1\x00".toList ++ (bundle.appId.toList ++
      '\x00' :: (bundle.package.toList ++ '\x00' :: (bundle.version.toList ++ '\x00' :: rest))) :=
  separated_toList (by decide) rest

/-- The manifest's path has no line end, so whoever shares such records has the manifest's. -/
theorem manifest_shared {ours theirs : List InventoryEntry} {entry : InventoryEntry}
    (shared : ∀ record ∈ theirs.map InventoryEntry.record, '\n' ∉ record.first → record ∈ ours.map InventoryEntry.record)
    (listed : entry ∈ theirs) (path : entry.path = "manifest.toml") : entry ∈ ours := by
  have clear : '\n' ∉ entry.record.first := by
    show '\n' ∉ entry.path.toList
    rw [path]
    decide
  have found := shared entry.record (List.mem_map_of_mem listed) clear
  rwa [List.mem_map_of_injective record_injective] at found

section
variable {left right : PreparedPackage Content} {text : String} (l : Checked formats left text) (r : Checked formats right text)
include l r

/-- The identifiers are told by the NULs that end them. -/
theorem Checked.identifiers : left.bundle.appId = right.bundle.appId ∧ left.bundle.package = right.bundle.package ∧
    left.bundle.version.toList ++ '\x00' :: Records.body '\x00' '\n' (left.bundle.inventory.map InventoryEntry.record) =
      right.bundle.version.toList ++ '\x00' :: Records.body '\x00' '\n' (right.bundle.inventory.map InventoryEntry.record) := by
  have same := l.text.symm.trans r.text
  rw [contentHeader_toList, contentHeader_toList] at same
  obtain ⟨appIds, same⟩ := Records.append_stop_inj l.appId r.appId (List.append_cancel_left same)
  obtain ⟨packages, same⟩ := Records.append_stop_inj l.package r.package same
  exact ⟨String.toList_inj.mp appIds, String.toList_inj.mp packages, same⟩

theorem Checked.records : (∀ record ∈ left.bundle.inventory.map InventoryEntry.record, record.Proper '\x00' '\n' 2) ∧
    ∀ record ∈ right.bundle.inventory.map InventoryEntry.record, record.Proper '\x00' '\n' 2 := by
  constructor
  · intro record member
    obtain ⟨entry, listed, rfl⟩ := List.mem_map.mp member
    exact l.proper entry listed
  · intro record member
    obtain ⟨entry, listed, rfl⟩ := List.mem_map.mp member
    exact r.proper entry listed

/-- A manifest's record has no line end in its path, so one inventory has that of the other. -/
theorem Checked.manifests : formats.sha256 left.manifestBytes = formats.sha256 right.manifestBytes := by
  obtain ⟨proper, fit⟩ := l.records r
  rcases Records.shared_of_append_body (by decide) proper fit (l.identifiers r).2.2 with shared | shared
  · obtain ⟨entry, listed, path⟩ := r.listed
    exact (l.hashed entry (manifest_shared shared listed path) path).trans (r.hashed entry listed path).symm
  · obtain ⟨entry, listed, path⟩ := l.listed
    exact (l.hashed entry listed path).trans (r.hashed entry (manifest_shared shared listed path) path).symm

end

/-- Bundles that pass the checks and give the content digest one text have the same
    identifiers; and unless their manifests share a hash, the same content. -/
theorem content_identity {left right : PreparedPackage Content} {text : String} (l : Accepted formats left text)
    (r : Accepted formats right text) :
    (left.bundle.appId = right.bundle.appId ∧ left.bundle.package = right.bundle.package) ∧
      (SameContent left right ∨ Collision formats left.manifestBytes right.manifestBytes) := by
  have checked := l.checked
  have other := r.checked
  obtain ⟨appIds, packages, rest⟩ := checked.identifiers other
  refine ⟨⟨appIds, packages⟩, ?_⟩
  by_cases bytes : left.manifestBytes = right.manifestBytes
  · have manifest : left.manifest = right.manifest := by
      have parsed := checked.parsed
      rw [bytes, other.parsed] at parsed
      exact (Except.ok.inj parsed).symm
    have version : left.bundle.version = right.bundle.version := by
      rw [← checked.version, ← other.version, manifest]
    rw [version] at rest
    obtain ⟨proper, fit⟩ := checked.records other
    have records := Records.body_injective (by decide) proper fit (List.cons.inj (List.append_cancel_left rest)).2
    exact .inl ⟨version, manifest, bytes, record_injective.list_map records⟩
  · exact .inr ⟨bytes, checked.manifests other⟩

/-- The script's bundle is accepted. -/
theorem content_identity_sketchpad :
    ∃ text, Accepted sketchpadFormats sketchpadPackage text ∧
      (SameContent sketchpadPackage sketchpadPackage ∨
        Collision sketchpadFormats sketchpadPackage.manifestBytes sketchpadPackage.manifestBytes) := by
  have finished : ((prepare sketchpadFormats sketchpadArchive "stage" paperPro).trace (List.replicate 40 {}) {}).result =
      some (.ok sketchpadPackage) := rfl
  obtain ⟨text, accepted, -⟩ := prepare_accepted finished
  exact ⟨text, accepted, (content_identity accepted accepted).2⟩

end Remagic.Package
