import Remagic.ManifestText

/-!
# Mentions of the link

Where the text of a string writes the link's path out, and what the path of the release in
its place does to the components. No end of the link's path is a beginning of it, so no
mention reaches into another.
-/

namespace Remagic.ManifestText
open TomlText

variable {appId : AppId} {contentId : List Char} {more : List (List Char)}

/-! ## The replacement -/

theorem replaceFrom_skip (old new skipped rest : List Char) :
    replaceFrom old new skipped.length (skipped ++ rest) = replaceFrom old new 0 rest := by
  induction skipped with
  | nil => rfl
  | cons c more ih => exact ih

theorem replace_cons {old new : List Char} {c : Char} {rest : List Char} (other : ¬ old <+: c :: rest) :
    replace old new (c :: rest) = c :: replace old new rest := by
  unfold replace
  rw [replaceFrom, if_neg other]

theorem replace_match {old new : List Char} (filled : old ≠ []) (rest : List Char) :
    replace old new (old ++ rest) = new ++ replace old new rest := by
  obtain ⟨c, more, rfl⟩ := List.exists_cons_of_ne_nil filled
  have found : c :: more <+: c :: (more ++ rest) := List.prefix_append (c :: more) rest
  unfold replace
  rw [List.cons_append, replaceFrom, if_pos found, List.length_cons, Nat.add_sub_cancel, replaceFrom_skip]

theorem replace_replaced (old new : List Char) (follow : Char) (text : List Char) :
    Replaced old new follow text (replace (old ++ [follow]) (new ++ [follow]) text) := by
  induction length : text.length using Nat.strong_induction_on generalizing text with
  | _ size ih =>
    cases text with
    | nil => exact .nil
    | cons c rest =>
      by_cases found : old ++ [follow] <+: c :: rest
      · obtain ⟨later, same⟩ := found
        have shorter : later.length < size := by
          rw [← length, ← same]
          simp
          omega
        rw [← same, replace_match (by simp), List.append_assoc, List.append_assoc]
        exact .piece (ih later.length shorter later rfl)
      · rw [replace_cons found]
        have shorter : rest.length < size := by
          rw [← length]
          exact Nat.lt_succ_self _
        exact .same c (ih rest.length shorter rest rfl)

/-! ## Paths -/

theorem splitSlash_ne_nil (path : List Char) : splitSlash path ≠ [] := by
  cases path with
  | nil => exact List.cons_ne_nil _ _
  | cons c rest =>
    unfold splitSlash
    split_ifs
    · exact List.cons_ne_nil _ _
    · split <;> exact List.cons_ne_nil _ _

theorem splitSlash_slash (rest : List Char) : splitSlash ('/' :: rest) = [] :: splitSlash rest := rfl

theorem splitSlash_cons {c : Char} (other : c ≠ '/') {rest first : List Char} (split : splitSlash rest = first :: more) :
    splitSlash (c :: rest) = (c :: first) :: more := by
  rw [splitSlash, if_neg other, split]

theorem splitSlash_append (left right : List Char) :
    splitSlash (left ++ '/' :: right) = splitSlash left ++ splitSlash right := by
  induction left with
  | nil => rfl
  | cons c rest ih =>
    by_cases slash : c = '/'
    · subst slash
      rw [List.cons_append, splitSlash_slash, splitSlash_slash, ih, List.cons_append]
    · obtain ⟨first, more, split⟩ := List.exists_cons_of_ne_nil (splitSlash_ne_nil rest)
      rw [split, List.cons_append] at ih
      rw [List.cons_append, splitSlash_cons slash ih, splitSlash_cons slash split, List.cons_append]

theorem splitSlash_name {name : List Char} (plain : '/' ∉ name) (rest : List Char) {first : List Char}
    (split : splitSlash rest = first :: more) : splitSlash (name ++ rest) = (name ++ first) :: more := by
  induction name with
  | nil => exact split
  | cons c name ih =>
    obtain ⟨here, later⟩ := not_or.mp fun found => plain (List.mem_cons.mpr found)
    rw [List.cons_append, List.cons_append, splitSlash_cons (Ne.symm here) (ih later)]

theorem splitSlash_plain {name : List Char} (plain : '/' ∉ name) : splitSlash name = [name] := by
  have split : splitSlash (name ++ []) = [name ++ []] := splitSlash_name plain [] rfl
  rwa [List.append_nil] at split

/-- The first part is all of the path, or a slash follows it. -/
theorem splitSlash_shape {path first : List Char} (split : splitSlash path = first :: more) :
    '/' ∉ first ∧ (more = [] ∧ path = first ∨ ∃ rest, path = first ++ '/' :: rest ∧ more = splitSlash rest) := by
  induction path generalizing first more with
  | nil =>
    cases split
    exact ⟨List.not_mem_nil, .inl ⟨rfl, rfl⟩⟩
  | cons c path ih =>
    by_cases slash : c = '/'
    · subst slash
      cases split
      exact ⟨List.not_mem_nil, .inr ⟨path, rfl, rfl⟩⟩
    · obtain ⟨head, tail, inner⟩ := List.exists_cons_of_ne_nil (splitSlash_ne_nil path)
      rw [splitSlash_cons slash inner] at split
      cases split
      obtain ⟨plain, shape⟩ := ih inner
      refine ⟨?_, ?_⟩
      · intro found
        rcases List.mem_cons.mp found with found | found
        · exact slash found.symm
        · exact plain found
      · rcases shape with ⟨rfl, rfl⟩ | ⟨rest, rfl, rfl⟩
        · exact .inl ⟨rfl, rfl⟩
        · exact .inr ⟨rest, rfl, rfl⟩

theorem components_append (left right : List Char) :
    components (left ++ '/' :: right) = components left ++ components right := by
  unfold components
  rw [splitSlash_append, List.filter_append]

/-- A name of two characters or more begins one component, whatever follows. -/
theorem components_name {name : List Char} (plain : '/' ∉ name) (long : 2 ≤ name.length) (rest : List Char)
    {first : List Char} (split : splitSlash rest = first :: more) :
    components (name ++ rest) = (name ++ first) :: more.filter fun name => name ≠ [] ∧ name ≠ ['.'] := by
  unfold components
  rw [splitSlash_name plain rest split, List.filter_cons_of_pos]
  have filled : name ++ first ≠ [] := by
    intro nothing
    have shape : name.length + first.length = 0 := by rw [← List.length_append, nothing, List.length_nil]
    omega
  have real : name ++ first ≠ ['.'] := by
    intro dot
    have shape : name.length + first.length = 1 := by rw [← List.length_append, dot, List.length_singleton]
    omega
  simp [filled, real]

/-! ## The link and the release -/

def appComponents (appId : AppId) : List (List Char) :=
  ["home".toList, "root".toList, "apps".toList, appId.value.toList]

def currentComponents (appId : AppId) : List (List Char) := appComponents appId ++ ["current".toList]

def releaseComponents (appId : AppId) (contentId : List Char) : List (List Char) :=
  appComponents appId ++ ["releases".toList, contentId]

theorem idByte_ordinary {c : Char} (byte : idByte c = true) : ordinary c = true ∧ c ≠ '/' ∧ c ≠ '.' := by
  have lower : idByte '/' = false ∧ idByte '.' = false := by decide
  refine ⟨?_, fun slash => ?_, fun dot => ?_⟩
  · simp only [idByte, Bool.or_eq_true, beq_iff_eq] at byte
    have spelled : c.isAlphanum = (c.isUpper || c.isLower || c.isDigit) := rfl
    rcases byte with (lower | digit) | rfl
    · exact ordinary_alphanum (by rw [spelled, lower, Bool.or_true, Bool.true_or])
    · exact ordinary_alphanum (by rw [spelled, digit, Bool.or_true])
    · decide
  · rw [slash, lower.1] at byte
    cases byte
  · rw [dot, lower.2] at byte
    cases byte

theorem appId_bytes (appId : AppId) {c : Char} (member : c ∈ appId.value.toList) : idByte c = true := by
  have valid := appId.valid
  simp only [validId, Bool.and_eq_true] at valid
  exact List.all_eq_true.mp valid.1.1.2 c member

theorem appId_plain (appId : AppId) : '/' ∉ appId.value.toList :=
  fun member => (idByte_ordinary (appId_bytes appId member)).2.1 rfl

theorem appId_filled (appId : AppId) : appId.value.toList ≠ [] := by
  intro nothing
  have valid := appId.valid
  simp only [validId, Bool.and_eq_true] at valid
  have empty : appId.value = "" := String.toList_inj.mp nothing
  have filled := valid.1.1.1.1
  rw [empty] at filled
  cases filled

theorem components_appId (appId : AppId) : components appId.value.toList = [appId.value.toList] := by
  have split := splitSlash_plain (appId_plain appId)
  have real : appId.value.toList ≠ ['.'] := by
    intro dot
    have member : '.' ∈ appId.value.toList := by rw [dot]; exact List.mem_singleton.mpr rfl
    exact (idByte_ordinary (appId_bytes appId member)).2.2 rfl
  unfold components
  rw [split, List.filter_cons_of_pos (by simp [appId_filled appId, real]), List.filter_nil]

/-- The path of a place in the application's directory. -/
def inApp (appId : AppId) (rest : List Char) : List Char :=
  '/' :: ("home".toList ++ '/' :: ("root".toList ++ '/' :: ("apps".toList ++ '/' :: (appId.value.toList ++ '/' :: rest))))

theorem currentPath_eq (appId : AppId) : currentPath appId = inApp appId "current".toList := rfl

theorem releasePath_eq (appId : AppId) (contentId : List Char) :
    releasePath appId contentId = inApp appId ("releases".toList ++ '/' :: contentId) := rfl

theorem inApp_append (appId : AppId) (rest more : List Char) : inApp appId rest ++ more = inApp appId (rest ++ more) := by
  simp only [inApp, List.append_assoc, List.cons_append]

theorem components_inApp (appId : AppId) (before rest : List Char) :
    components (before ++ inApp appId rest) = components before ++ (appComponents appId ++ components rest) := by
  unfold inApp
  rw [components_append, components_append, components_append, components_append, components_append, components_appId]
  rfl

/-- What follows the first component, where a path goes on in the middle of it. -/
def furtherComponents (rest : List Char) : List (List Char) :=
  (splitSlash rest).tail.filter fun name => name ≠ [] ∧ name ≠ ['.']

def firstPart (rest : List Char) : List Char := (splitSlash rest).headD []

theorem splitSlash_eq (rest : List Char) : splitSlash rest = firstPart rest :: (splitSlash rest).tail := by
  obtain ⟨first, more, split⟩ := List.exists_cons_of_ne_nil (splitSlash_ne_nil rest)
  rw [firstPart, split]
  rfl

theorem components_current (appId : AppId) (before rest : List Char) :
    components (before ++ currentPath appId ++ rest) =
      components before ++ (appComponents appId ++ (("current".toList ++ firstPart rest) :: furtherComponents rest)) := by
  rw [currentPath_eq, List.append_assoc, inApp_append, components_inApp,
    components_name (by decide) (by decide) rest (splitSlash_eq rest)]
  rfl

theorem components_release (appId : AppId) (plain : '/' ∉ contentId) (long : 2 ≤ contentId.length)
    (before rest : List Char) :
    components (before ++ releasePath appId contentId ++ rest) =
      components before ++
        (appComponents appId ++ ("releases".toList :: (contentId ++ firstPart rest) :: furtherComponents rest)) := by
  rw [releasePath_eq, List.append_assoc, inApp_append, components_inApp, List.append_assoc, List.cons_append,
    components_append, components_name plain long rest (splitSlash_eq rest)]
  rfl

/-- What `materialize_manifest_bytes` asks of a content id. -/
structure IsContentId (contentId : List Char) : Prop where
  length : contentId.length = 64
  digits : ∀ c ∈ contentId, contentIdDigit c = true

theorem contentIdDigit_ordinary {c : Char} (digit : contentIdDigit c = true) : ordinary c = true ∧ c ≠ '/' := by
  have slash : contentIdDigit '/' = false := by decide
  refine ⟨?_, fun same => ?_⟩
  · simp only [contentIdDigit, Bool.or_eq_true, Bool.and_eq_true, decide_eq_true_eq] at digit
    refine ordinary_alphanum (alphanum_iff.mpr ?_)
    rcases digit with digit | ⟨low, high⟩
    · exact .inr (Char.isDigit_iff_toNat.mp digit)
    · have above : 97 ≤ c.toNat := UInt32.le_iff_toNat_le.mp low
      have below : c.toNat ≤ 102 := UInt32.le_iff_toNat_le.mp high
      omega
  · rw [same, slash] at digit
    cases digit

theorem path_ordinary : (∀ c ∈ "/home/root/apps/".toList, ordinary c = true) ∧
    (∀ c ∈ "/current".toList, ordinary c = true) ∧ ∀ c ∈ "/releases/".toList, ordinary c = true := by
  simp only [← List.all_eq_true]
  decide

theorem currentPath_piece (appId : AppId) : Piece (currentPath appId) := by
  refine ⟨⟨_, rfl⟩, fun c member => ?_⟩
  unfold currentPath at member
  rcases List.mem_append.mp member with member | member
  · exact path_ordinary.1 c member
  · rcases List.mem_append.mp member with member | member
    · exact (idByte_ordinary (appId_bytes appId member)).1
    · exact path_ordinary.2.1 c member

theorem releasePath_piece (appId : AppId) (isId : IsContentId contentId) : Piece (releasePath appId contentId) := by
  refine ⟨⟨_, rfl⟩, fun c member => ?_⟩
  unfold releasePath at member
  rcases List.mem_append.mp member with member | member
  · exact path_ordinary.1 c member
  · rcases List.mem_append.mp member with member | member
    · exact (idByte_ordinary (appId_bytes appId member)).1
    · rcases List.mem_append.mp member with member | member
      · exact path_ordinary.2.2 c member
      · exact (contentIdDigit_ordinary (isId.digits c member)).1

theorem IsContentId.plain (isId : IsContentId contentId) : '/' ∉ contentId :=
  fun member => (contentIdDigit_ordinary (isId.digits _ member)).2 rfl

theorem IsContentId.long (isId : IsContentId contentId) : 2 ≤ contentId.length := by
  rw [isId.length]
  decide

/-! ## Where a string mentions the link -/

/-- The link's path is written out after what is before it, and a slash or a quotation mark follows. -/
def Mentions (appId : AppId) (written before : List Written) : Prop :=
  ∃ unit rest, written = before ++ (currentPath appId).map .plain ++ unit :: rest ∧
    (unit.Reads '/' ∨ unit.Reads '"')

def Unmentioned (appId : AppId) (written : List Written) : Prop := ∀ before, ¬ Mentions appId written before

theorem splitSlash_current (appId : AppId) :
    splitSlash (currentPath appId) =
      [[], "home".toList, "root".toList, "apps".toList, appId.value.toList, "current".toList] := by
  rw [currentPath_eq, inApp, splitSlash_slash, splitSlash_append, splitSlash_append, splitSlash_append,
    splitSlash_append, splitSlash_plain (appId_plain appId)]
  rfl

/-- The first part of what a path begins with is the path's own if a slash follows it. -/
theorem splitSlash_begins {path first : List Char} (split : splitSlash path = first :: more) (rest : List Char) :
    (more ≠ [] → ∃ inner, more = splitSlash inner ∧ splitSlash (path ++ rest) = first :: splitSlash (inner ++ rest)) ∧
      (more = [] → ∃ last others, splitSlash (path ++ rest) = (first ++ last) :: others) := by
  obtain ⟨plain, shape⟩ := splitSlash_shape split
  constructor
  · intro parts
    rcases shape with ⟨nothing, -⟩ | ⟨inner, rfl, rfl⟩
    · exact absurd nothing parts
    · refine ⟨inner, rfl, ?_⟩
      rw [List.append_assoc, List.cons_append, splitSlash_append, splitSlash_plain plain]
      rfl
  · rintro rfl
    rcases shape with ⟨-, rfl⟩ | ⟨inner, -, parts⟩
    · exact ⟨_, _, splitSlash_name plain rest (splitSlash_eq rest)⟩
    · exact absurd parts.symm (splitSlash_ne_nil inner)

theorem not_begins {first : List Char} : "current".toList ++ first ≠ "root".toList ∧
    "current".toList ++ first ≠ "home".toList := by
  constructor
  · intro same
    exact absurd (List.cons.inj same).1 (by decide)
  · intro same
    exact absurd (List.cons.inj same).1 (by decide)

/-- No end of the link's path is a beginning of it. -/
theorem currentPath_borderless (appId : AppId) (before border : List Char)
    (split : currentPath appId = before ++ border)
    (proper : before ≠ []) (filled : border ≠ []) : ¬ border <+: currentPath appId := by
  rintro ⟨rest, whole⟩
  obtain ⟨c, inner, rfl⟩ := List.exists_cons_of_ne_nil filled
  obtain ⟨d, earlier, rfl⟩ := List.exists_cons_of_ne_nil proper
  obtain rfl : c = '/' := (List.cons.inj whole).1
  obtain rfl : d = '/' := (List.cons.inj split).1.symm
  have parts := splitSlash_current appId
  have begins := splitSlash_current appId
  rw [split, splitSlash_append, splitSlash_slash, List.cons_append] at parts
  rw [← whole, List.cons_append, splitSlash_slash] at begins
  have parts := (List.cons.inj parts).2
  have begins := (List.cons.inj begins).2
  obtain ⟨first, more, inside⟩ := List.exists_cons_of_ne_nil (splitSlash_ne_nil inner)
  obtain ⟨one, others, earlier_split⟩ := List.exists_cons_of_ne_nil (splitSlash_ne_nil earlier)
  obtain ⟨goes_on, ends⟩ := splitSlash_begins inside rest
  rw [inside, earlier_split] at parts
  -- the border begins with the second component or a later one
  rcases others with _ | ⟨two, _ | ⟨three, _ | ⟨four, others⟩⟩⟩
  · obtain ⟨-, rfl, rfl⟩ : _ ∧ first = "root".toList ∧ more = _ := by
      simpa only [List.cons_append, List.nil_append, List.cons.injEq] using parts
    obtain ⟨_, -, same⟩ := goes_on (List.cons_ne_nil _ _)
    rw [same] at begins
    exact absurd (List.cons.inj begins).1 (by decide)
  · obtain ⟨-, -, rfl, rfl⟩ : _ ∧ _ ∧ first = "apps".toList ∧ more = _ := by
      simpa only [List.cons_append, List.nil_append, List.cons.injEq] using parts
    obtain ⟨_, -, same⟩ := goes_on (List.cons_ne_nil _ _)
    rw [same] at begins
    exact absurd (List.cons.inj begins).1 (by decide)
  · obtain ⟨-, -, -, rfl, rfl⟩ : _ ∧ _ ∧ _ ∧ first = appId.value.toList ∧ more = _ := by
      simpa only [List.cons_append, List.nil_append, List.cons.injEq] using parts
    obtain ⟨last, inner_split, same⟩ := goes_on (List.cons_ne_nil _ _)
    obtain ⟨_, _, later⟩ := (splitSlash_begins inner_split.symm rest).2 rfl
    rw [same, later] at begins
    exact not_begins.1 (List.cons.inj (List.cons.inj begins).2).1
  · obtain ⟨-, -, -, -, last⟩ : _ ∧ _ ∧ _ ∧ _ ∧ others ++ first :: more = ["current".toList] := by
      simpa only [List.cons_append, List.cons.injEq] using parts
    cases others with
    | nil =>
      obtain ⟨rfl, rfl⟩ := List.cons.inj last
      obtain ⟨_, _, later⟩ := ends rfl
      rw [later] at begins
      exact not_begins.2 (List.cons.inj begins).1
    | cons other others =>
      have short := (List.cons.inj last).2
      exact absurd short (List.append_ne_nil_of_right_ne_nil _ (List.cons_ne_nil first more))

/-- The string with the release's path at one of the places where the link's is. -/
def repointed (appId : AppId) (contentId : List Char) (before : List Written) (unit : Written) (rest : List Written) :
    List Written :=
  before ++ (releasePath appId contentId).map .plain ++ unit :: rest

theorem map_plain_inj {left right : List Char} (same : left.map Written.plain = right.map .plain) : left = right :=
  List.map_injective_iff.mpr (fun _ _ same => Written.plain.inj same) same

/-- Where the link is written out twice, neither reaches into the other. -/
theorem apart_or_same {old : List Char} (borderless : ∀ before border, old = before ++ border → before ≠ [] →
    border ≠ [] → ¬ border <+: old) {between rest later : List Written}
    (same : old.map .plain ++ rest = between ++ old.map .plain ++ later) :
    between = [] ∨ ∃ more, between = old.map .plain ++ more := by
  rw [List.append_assoc] at same
  rcases List.append_eq_append_iff.mp same with ⟨more, long, -⟩ | ⟨border, whole, others⟩
  · exact .inr ⟨more, long⟩
  · by_cases nothing : between = []
    · exact .inl nothing
    by_cases none : border = []
    · right
      rw [none, List.append_nil] at whole
      exact ⟨[], by rw [List.append_nil, whole]⟩
    exfalso
    obtain ⟨first, last, split, rfl, rfl⟩ := List.map_eq_append_iff.mp whole
    refine borderless first last split (fun empty => nothing (by rw [empty]; rfl))
      (fun empty => none (by rw [empty]; rfl)) ?_
    have begins : last.map Written.plain <+: old.map .plain := by
      have within : last.map Written.plain <+: old.map .plain ++ later := ⟨rest, others.symm⟩
      refine List.prefix_of_prefix_length_le within (List.prefix_append _ _) ?_
      rw [List.length_map, List.length_map, split, List.length_append]
      exact Nat.le_add_left _ _
    obtain ⟨tail, tail_same⟩ := begins
    obtain ⟨head, back, again, front, -⟩ := List.map_eq_append_iff.mp tail_same.symm
    exact ⟨back, by rw [again, map_plain_inj front]⟩

theorem releasePath_slash (appId : AppId) (contentId : List Char) (more : List Written) :
    ∃ rest, (releasePath appId contentId).map Written.plain ++ more = .plain '/' :: rest := ⟨_, rfl⟩

/-- Where nothing is left to mention the link once it is replaced in one place, there was no other place. -/
theorem mentions_once {before rest other : List Written} {unit : Written}
    (gone : Unmentioned appId (repointed appId contentId before unit rest))
    (mention : Mentions appId (before ++ (currentPath appId).map .plain ++ unit :: rest) other) : other = before := by
  have borderless := currentPath_borderless appId
  obtain ⟨unit', rest', same, reads⟩ := mention
  rw [List.append_assoc, List.append_assoc] at same
  rcases List.append_eq_append_iff.mp same with ⟨between, rfl, others⟩ | ⟨between, rfl, others⟩
  · rw [← List.append_assoc between] at others
    rcases apart_or_same borderless others with rfl | ⟨more, rfl⟩
    · exact List.append_nil before
    · exfalso
      rw [List.append_assoc, List.append_assoc] at others
      have tail := List.append_cancel_left others
      refine gone (before ++ (releasePath appId contentId).map .plain ++ more) ⟨unit', rest', ?_, reads⟩
      rw [repointed, tail]
      simp only [List.append_assoc]
  · rw [← List.append_assoc between] at others
    rcases apart_or_same borderless others with rfl | ⟨more, rfl⟩
    · exact (List.append_nil other).symm
    · exfalso
      rw [List.append_assoc, List.append_assoc] at others
      have tail := List.append_cancel_left others
      cases more with
      | nil =>
        obtain ⟨back, slash⟩ := releasePath_slash appId contentId (unit :: rest)
        refine gone other ⟨.plain '/', back, ?_, .inl (.inl rfl)⟩
        rw [repointed, List.append_nil, List.append_assoc, slash]
      | cons first more =>
        obtain ⟨rfl, -⟩ := List.cons.inj tail
        refine gone other ⟨unit', more ++ ((releasePath appId contentId).map .plain ++ unit :: rest), ?_, reads⟩
        rw [repointed]
        simp only [List.append_assoc, List.cons_append]

/-! ## What a replacement does to a path -/

theorem valueText_link (before : List Written) (path : List Char) (unit : Written) (rest : List Written) :
    valueText (before ++ path.map .plain ++ unit :: rest) =
      valueText before ++ path ++ (unit.value ++ valueText rest) := by
  rw [valueText_append, valueText_append, valueText_map]
  rfl

/-- The release's path has one component more than the link's. -/
theorem components_longer (appId : AppId) (isId : IsContentId contentId) (before rest : List Char) :
    (components (before ++ releasePath appId contentId ++ rest)).length =
      (components (before ++ currentPath appId ++ rest)).length + 1 := by
  rw [components_release appId isId.plain isId.long, components_current]
  simp only [List.length_append, List.length_cons]
  omega

/-- Each replacement adds a component. -/
theorem rewritten_grows (isId : IsContentId contentId) {follow : Char} {v w : List Written}
    (rewritten : Rewritten (currentPath appId) (releasePath appId contentId) follow v w) :
    ∃ count, (∀ before, (components (before ++ valueText w)).length =
        (components (before ++ valueText v)).length + count) ∧
      (count = 0 → w = v) ∧
      (count = 1 → ∃ before unit rest, unit.Reads follow ∧
        v = before ++ (currentPath appId).map .plain ++ unit :: rest ∧
          w = repointed appId contentId before unit rest) := by
  induction rewritten with
  | nil => exact ⟨0, fun _ => rfl, fun _ => rfl, fun one => nomatch one⟩
  | same unit _ ih =>
    obtain ⟨count, grows, none, single⟩ := ih
    refine ⟨count, fun before => ?_, fun zero => by rw [none zero], fun one => ?_⟩
    · have longer := grows (before ++ unit.value)
      rw [List.append_assoc, List.append_assoc] at longer
      exact longer
    · obtain ⟨before, other, rest, reads, rfl, rfl⟩ := single one
      exact ⟨unit :: before, other, rest, reads, rfl, rfl⟩
  | @piece unit reads v w _ ih =>
    obtain ⟨count, grows, none, -⟩ := ih
    refine ⟨count + 1, fun before => ?_, fun zero => (nomatch zero), fun one => ?_⟩
    · have link := valueText_link [] (currentPath appId) unit v
      have release := valueText_link [] (releasePath appId contentId) unit w
      rw [List.nil_append] at link release
      rw [link, release]
      show (components (before ++ (releasePath appId contentId ++ (unit.value ++ valueText w)))).length =
        (components (before ++ (currentPath appId ++ (unit.value ++ valueText v)))).length + (count + 1)
      have longer := components_longer appId isId before (unit.value ++ valueText w)
      have inner := grows (before ++ currentPath appId ++ unit.value)
      rw [List.append_assoc (before ++ currentPath appId), List.append_assoc (before ++ currentPath appId)] at inner
      rw [← List.append_assoc before, ← List.append_assoc before]
      omega
    · obtain rfl := none (Nat.succ.inj one)
      exact ⟨[], unit, w, reads, rfl, rfl⟩

end Remagic.ManifestText
