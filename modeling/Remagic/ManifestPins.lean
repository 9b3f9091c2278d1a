import Remagic.Fallible
import Remagic.ManifestLinks

/-!
# When a manifest names its release

The replacement works on the text, so it finds the link where a string writes it without
escapes and a slash or a quotation mark follows. A manifest is pinned to its release if
and only if every path below the link is led by it as it is written, and mentions it once,
and nothing else mentions it.
-/

namespace Remagic.ManifestText
open TomlText
open Fallible (ok_of_bind ok_of_guard)

variable {Manifest : Type} {reader : Reader Manifest} {appId : AppId} {contentId : List Char}

/-! ## One string -/

/-- The path is the link or is below it. -/
def Refers (appId : AppId) (value : List Char) : Prop := currentComponents appId <+: components value

/-- The path that was below the link is the same place in the release. -/
def Repointed (appId : AppId) (contentId value later : List Char) : Prop :=
  ∃ rest, components value = currentComponents appId ++ rest ∧
    components later = releaseComponents appId contentId ++ rest

/-- The link is written out at the string's head, and once it is replaced there the string mentions it nowhere. -/
def Leads (appId : AppId) (contentId : List Char) (written : List Written) : Prop :=
  ∃ before unit rest, written = before ++ (currentPath appId).map .plain ++ unit :: rest ∧
    (unit.Reads '/' ∨ unit.Reads '"') ∧ components (valueText before) = [] ∧
    Unmentioned appId (repointed appId contentId before unit rest)

theorem same_rest {before rest rest' : List Written} {unit unit' : Written} {path : List Char}
    (same : before ++ path.map .plain ++ unit :: rest = before ++ path.map .plain ++ unit' :: rest') :
    unit' = unit ∧ rest' = rest := by
  obtain ⟨rfl, rfl⟩ := List.cons.inj (List.append_cancel_left same)
  exact ⟨rfl, rfl⟩

section
variable {v w last : List Written}
  (slashed : Rewritten (currentPath appId) (releasePath appId contentId) '/' v w)
  (quoted : Rewritten (currentPath appId) (releasePath appId contentId) '"' w last)
include slashed quoted

/-- A string without a mention is left alone. -/
theorem left_alone (unmentioned : Unmentioned appId v) : last = v := by
  have first : w = v := slashed.eq_of_unmentioned fun before unit rest same reads =>
    unmentioned before ⟨unit, rest, same, .inl reads⟩
  subst first
  exact quoted.eq_of_unmentioned fun before unit rest same reads => unmentioned before ⟨unit, rest, same, .inr reads⟩

/-- A string that the link leads has the release's path there in the end. -/
theorem leads_repointed (gone : Unmentioned appId last) {before rest : List Written} {unit : Written}
    (shape : v = before ++ (currentPath appId).map .plain ++ unit :: rest) (reads : unit.Reads '/' ∨ unit.Reads '"')
    (clear : Unmentioned appId (repointed appId contentId before unit rest)) :
    last = repointed appId contentId before unit rest := by
  subst shape
  have once (other : List Written) (unit' : Written) (rest' : List Written)
      (same : before ++ (currentPath appId).map .plain ++ unit :: rest =
        other ++ (currentPath appId).map .plain ++ unit' :: rest')
      (found : unit'.Reads '/' ∨ unit'.Reads '"') : other = before ∧ unit' = unit ∧ rest' = rest := by
    obtain rfl := mentions_once clear ⟨unit', rest', same, found⟩
    exact ⟨rfl, same_rest same⟩
  have stands : ¬ Unmentioned appId (before ++ (currentPath appId).map .plain ++ unit :: rest) :=
    fun none => none before ⟨unit, rest, rfl, reads⟩
  rcases slashed.once fun other unit' rest' same found => (once other unit' rest' same (.inl found)).1 with
    rfl | ⟨unit', rest', found, same, rfl⟩
  · rcases quoted.once fun other unit' rest' same found => (once other unit' rest' same (.inr found)).1 with
      rfl | ⟨unit', rest', found, same, rfl⟩
    · exact absurd gone stands
    · obtain ⟨-, rfl, rfl⟩ := once before unit' rest' same (.inr found)
      rfl
  · obtain ⟨-, rfl, rfl⟩ := once before unit' rest' same (.inl found)
    exact quoted.eq_of_unmentioned fun other unit'' rest'' same found => clear other ⟨unit'', rest'', same, .inr found⟩

/-- If the two passes add one component, one of them replaced the link in one place. -/
theorem single_replacement (isId : IsContentId contentId)
    (longer : (components (valueText last)).length = (components (valueText v)).length + 1) :
    ∃ before unit rest, (unit.Reads '/' ∨ unit.Reads '"') ∧
      v = before ++ (currentPath appId).map .plain ++ unit :: rest ∧
        last = repointed appId contentId before unit rest := by
  obtain ⟨count, grows, none, single⟩ := rewritten_grows isId slashed
  obtain ⟨more, grows', none', single'⟩ := rewritten_grows isId quoted
  have first := grows []
  have second := grows' []
  rw [List.nil_append, List.nil_append] at first second
  have total : count + more = 1 := by omega
  rcases Nat.add_eq_one_iff.mp total with ⟨zero, one⟩ | ⟨one, zero⟩
  · obtain rfl := none zero
    obtain ⟨before, unit, rest, reads, shape, later⟩ := single' one
    exact ⟨before, unit, rest, .inr reads, shape, later⟩
  · obtain rfl := none' zero
    obtain ⟨before, unit, rest, reads, shape, later⟩ := single one
    exact ⟨before, unit, rest, .inl reads, shape, later⟩

theorem unchanged (isId : IsContentId contentId) (same : valueText last = valueText v) : last = v := by
  obtain ⟨count, grows, none, -⟩ := rewritten_grows isId slashed
  obtain ⟨more, grows', none', -⟩ := rewritten_grows isId quoted
  have first := grows []
  have second := grows' []
  rw [List.nil_append, List.nil_append] at first second
  rw [same] at second
  rw [none' (by omega), none (by omega)]

/-- A path below the link names the release in the end if and only if the link leads it as it is written. -/
theorem repointed_iff (isId : IsContentId contentId) (gone : Unmentioned appId last)
    (refers : Refers appId (valueText v)) :
    Repointed appId contentId (valueText v) (valueText last) ↔ Leads appId contentId v := by
  constructor
  · rintro ⟨rest, was, is_now⟩
    have longer : (components (valueText last)).length = (components (valueText v)).length + 1 := by
      rw [was, is_now]
      simp only [currentComponents, releaseComponents, List.length_append, List.length_cons, List.length_nil]
      omega
    obtain ⟨before, unit, others, reads, shape, later⟩ := single_replacement slashed quoted isId longer
    refine ⟨before, unit, others, shape, reads, ?_, later ▸ gone⟩
    by_contra filled
    rw [shape, valueText_link, components_current] at was
    rw [later, repointed, valueText_link, components_release appId isId.plain isId.long] at is_now
    rw [← List.append_assoc] at was is_now
    have long : 4 < (components (valueText before) ++ appComponents appId).length := by
      have positive : 0 < (components (valueText before)).length := List.length_pos_of_ne_nil filled
      rw [List.length_append]
      exact Nat.lt_add_of_pos_left positive
    -- the fifth component is told by what is before the link
    have here := congrArg (fun names : List (List Char) => names[4]?) was
    have there := congrArg (fun names : List (List Char) => names[4]?) is_now
    simp only [List.getElem?_append_left long] at here there
    have fifth := here.symm.trans there
    rw [currentComponents, releaseComponents] at fifth
    cases fifth
  · rintro ⟨before, unit, others, shape, reads, head, clear⟩
    rw [leads_repointed slashed quoted gone shape reads clear]
    obtain ⟨rest, below⟩ := refers
    have value : valueText v = valueText before ++ currentPath appId ++ (unit.value ++ valueText others) := by
      rw [shape, valueText_link]
    have parts := below
    rw [value, components_current, head, List.nil_append, currentComponents, List.append_assoc] at parts
    obtain ⟨name, rfl⟩ := List.cons.inj (List.append_cancel_left parts)
    have ended : firstPart (unit.value ++ valueText others) = [] := List.append_right_eq_self.mp name.symm
    refine ⟨_, below.symm, ?_⟩
    rw [repointed, valueText_link, components_release appId isId.plain isId.long, head, ended, List.append_nil,
      List.nil_append, releaseComponents, List.append_assoc]
    rfl

end

/-- What a string that may bear a path has become. -/
def PinnedAt (appId : AppId) (contentId : List Char) (bears : Bool) : Item → Item → Prop
  | .code c, .code d => d = c
  | .string quote v, .string other w => other = quote ∧
    (bears ∧ Refers appId (valueText v) → Repointed appId contentId (valueText v) (valueText w)) ∧
      (¬ (bears ∧ Refers appId (valueText v)) → valueText w = valueText v)
  | _, _ => False

/-- The materialized manifest says what the bundled one says, but that its paths below the
    link are below the release, and none of the paths that it is read to have is below the link. -/
structure Pinned (reader : Reader Manifest) (appId : AppId) (contentId : List Char) (items : List Item)
    (out : List Char) : Prop where
  same : ∃ others, document out = some others ∧ others.length = items.length ∧
    ∀ i item other, items[i]? = some item → others[i]? = some other →
      PinnedAt appId contentId (reader.bears (items.map tokenOf) i) item other
  free : ∀ manifest, reader.fromStr out = .ok manifest → ∀ path ∈ reader.paths manifest,
    ¬ currentComponents appId <+: path

/-- Each path below the link is led by it as it is written, and no other string mentions it. -/
def WrittenOut (reader : Reader Manifest) (appId : AppId) (contentId : List Char) (items : List Item) : Prop :=
  ∀ i quote written, items[i]? = some (.string quote written) →
    (reader.bears (items.map tokenOf) i ∧ Refers appId (valueText written) → Leads appId contentId written) ∧
      (¬ (reader.bears (items.map tokenOf) i ∧ Refers appId (valueText written)) → Unmentioned appId written)

theorem materialize_ok {bundled out : List Char}
    (ok : materializeManifestBytes reader bundled appId contentId = .ok out) :
    IsContentId contentId ∧
      out = replace (currentPath appId ++ ['"']) (releasePath appId contentId ++ ['"'])
        (replace (currentPath appId ++ ['/']) (releasePath appId contentId ++ ['/']) bundled) ∧
      ¬ currentPath appId ++ ['/'] <:+: out ∧ ¬ currentPath appId ++ ['"'] <:+: out := by
  obtain ⟨isId, ok⟩ := ok_of_guard ok
  obtain ⟨clear, ok⟩ := ok_of_guard ok
  obtain ⟨manifest, -, ok⟩ := ok_of_bind ok
  obtain ⟨⟨⟩, -, ok⟩ := ok_of_bind ok
  obtain ⟨-, ok⟩ := ok_of_guard ok
  cases ok
  simp only [Bool.or_eq_true, decide_eq_true_eq, not_or] at clear
  simp only [ne_eq, Bool.or_eq_true, decide_eq_true_eq, Bool.not_eq_true', not_or, not_not, Bool.not_eq_false] at isId
  exact ⟨⟨isId.1, List.all_eq_true.mp isId.2⟩, rfl, clear⟩

/-- A string of a text without the link's path before a slash or a quotation mark does not mention it. -/
theorem unmentioned_of_text {out : List Char} {items : List Item} (read : document out = some items)
    (slash : ¬ currentPath appId ++ ['/'] <:+: out) (quote : ¬ currentPath appId ++ ['"'] <:+: out) {kind : Quote}
    {written : List Written} (member : .string kind written ∈ items) : Unmentioned appId written := by
  have found (c : Char) {before rest : List Written} {unit : Written} (reads : unit.Reads c)
      (same : written = before ++ (currentPath appId).map .plain ++ unit :: rest) :
      currentPath appId ++ [c] <:+: out := by
    refine List.IsInfix.trans ?_ (document_part read member)
    refine ⟨rawText before, rawText rest, ?_⟩
    rw [same, rawText_append, rawText_append, rawText_map]
    rcases reads with rfl | rfl <;> simp [rawText, Written.raw]
  rintro before ⟨unit, rest, same, reads | reads⟩
  · exact slash (found '/' reads same)
  · exact quote (found '"' reads same)

theorem alike_at {old new : List Char} {follow : Char} {items others : List Item}
    (alike : List.Forall₂ (ItemAlike old new follow) items others) {i : Nat} {item : Item}
    (here : items[i]? = some item) :
    ∃ other, others[i]? = some other ∧ ItemAlike old new follow item other := by
  induction alike generalizing i with
  | nil => cases here
  | cons one _ ih =>
    cases i with
    | zero =>
      cases here
      exact ⟨_, rfl, one⟩
    | succ i => exact ih here

theorem release_outside {rest : List (List Char)} :
    ¬ currentComponents appId <+: releaseComponents appId contentId ++ rest := by
  rintro ⟨more, same⟩
  have fifth := congrArg (fun names : List (List Char) => names[4]?) same
  cases fifth

section
variable {items others : List Item} (sized : others.length = items.length)
  (same : ∀ i item other, items[i]? = some item → others[i]? = some other →
    PinnedAt appId contentId (reader.bears (items.map tokenOf) i) item other)
include sized same

/-- Only strings that bear paths have changed. -/
theorem sameBut_of_pinned :
    SameBut (reader.bears (items.map tokenOf)) (items.map tokenOf) (others.map tokenOf) := by
  refine ⟨by rw [List.length_map, List.length_map, sized], fun i token other here after => ?_⟩
  rw [List.getElem?_map, Option.map_eq_some_iff] at here after
  obtain ⟨item, here, rfl⟩ := here
  obtain ⟨item', after, rfl⟩ := after
  have pinned := same i item item' here after
  cases item with
  | code c =>
    cases item' with
    | code d =>
      left
      rw [show d = c from pinned]
    | string kind w => exact pinned.elim
  | string kind v =>
    cases item' with
    | code d => exact pinned.elim
    | string kind' w =>
      obtain ⟨rfl, below, aside⟩ := pinned
      by_cases bearing : reader.bears (items.map tokenOf) i ∧ Refers appId (valueText v)
      · exact .inr ⟨bearing.1, _, _, _, rfl, rfl⟩
      · left
        rw [tokenOf, tokenOf, aside bearing]

theorem free_of_pinned {manifest : Manifest} (parsed : reader.manifest (others.map tokenOf) = .ok manifest)
    {path : List (List Char)} (member : path ∈ reader.paths manifest) : ¬ currentComponents appId <+: path := by
  obtain ⟨i, kind, value, after, bears, rfl⟩ := reader.from_strings parsed path member
  rw [reader.steady (sameBut_of_pinned sized same)] at bears
  rw [List.getElem?_map, Option.map_eq_some_iff] at after
  obtain ⟨item', after, token⟩ := after
  obtain ⟨item, here⟩ : ∃ item, items[i]? = some item := by
    obtain ⟨short, -⟩ := List.getElem?_eq_some_iff.mp after
    exact ⟨_, List.getElem?_eq_getElem (sized ▸ short)⟩
  have pinned := same i item item' here after
  cases item' with
  | code d => cases token
  | string kind' w =>
    cases token
    cases item with
    | code c => exact pinned.elim
    | string kind v =>
      obtain ⟨-, below, aside⟩ := pinned
      by_cases refers : Refers appId (valueText v)
      · obtain ⟨rest, -, later⟩ := below ⟨bears, refers⟩
        rw [later]
        exact release_outside
      · rw [aside fun bearing => refers bearing.2]
        exact refers

end

/-- A materialized manifest is pinned to its release if and only if each path below the link is written
    with the link at its head, and nothing else mentions the link. -/
theorem materialize_pins_iff {bundled out : List Char} {items : List Item} (source : document bundled = some items)
    (ok : materializeManifestBytes reader bundled appId contentId = .ok out) :
    Pinned reader appId contentId items out ↔ WrittenOut reader appId contentId items := by
  obtain ⟨isId, rfl, slash, quote⟩ := materialize_ok ok
  have from_piece := currentPath_piece appId
  have to_piece := releasePath_piece appId isId
  obtain ⟨middle, read_middle, slashed⟩ := document_replaced from_piece to_piece (by decide) (by decide)
    (replace_replaced _ _ '/' bundled) source
  obtain ⟨others, read_out, quoted⟩ := document_replaced from_piece to_piece (by decide) (by decide)
    (replace_replaced _ _ '"' _) read_middle
  have sized : others.length = items.length := quoted.length_eq.symm.trans slashed.length_eq.symm
  have strings (i : Nat) (kind : Quote) (v : List Written) (here : items[i]? = some (.string kind v)) :
      ∃ w last, others[i]? = some (.string kind last) ∧
        Rewritten (currentPath appId) (releasePath appId contentId) '/' v w ∧
          Rewritten (currentPath appId) (releasePath appId contentId) '"' w last ∧ Unmentioned appId last := by
    obtain ⟨_, mid, first⟩ := alike_at slashed here
    cases first with
    | string _ first =>
      obtain ⟨_, after, second⟩ := alike_at quoted mid
      cases second with
      | string _ second =>
        exact ⟨_, _, after, first, second, unmentioned_of_text read_out slash quote (List.mem_of_getElem? after)⟩
  constructor
  · rintro ⟨⟨found, read_found, -, pinned⟩, -⟩ i kind v here
    obtain rfl := Option.some.inj (read_out.symm.trans read_found)
    obtain ⟨w, last, after, first, second, gone⟩ := strings i kind v here
    obtain ⟨-, below, aside⟩ := pinned i _ _ here after
    constructor
    · intro bearing
      exact (repointed_iff first second isId gone bearing.2).mp (below bearing)
    · intro other
      rw [← unchanged first second isId (aside other)]
      exact gone
  · intro written
    have same : ∀ i item other, items[i]? = some item → others[i]? = some other →
        PinnedAt appId contentId (reader.bears (items.map tokenOf) i) item other := by
      intro i item other here after
      cases item with
      | code c =>
        obtain ⟨_, mid, first⟩ := alike_at slashed here
        cases first
        obtain ⟨_, last, second⟩ := alike_at quoted mid
        cases second
        cases after.symm.trans last
        rfl
      | string kind v =>
        obtain ⟨w, last, found, first, second, gone⟩ := strings i kind v here
        cases after.symm.trans found
        obtain ⟨leads, unmentioned⟩ := written i kind v here
        refine ⟨rfl, fun bearing => ?_, fun aside => ?_⟩
        · exact (repointed_iff first second isId gone bearing.2).mpr (leads bearing)
        · rw [left_alone first second (unmentioned aside)]
    refine ⟨⟨others, read_out, sized, same⟩, fun manifest parsed path member => ?_⟩
    unfold Reader.fromStr at parsed
    rw [read_out] at parsed
    exact free_of_pinned sized same parsed member

/-! ## A small manifest -/

def textOf : Token → Option (List Char)
  | .code _ => none
  | .text _ value => some value

def texts (tokens : List Token) : List (List Char) := tokens.filterMap textOf

theorem texts_at {tokens : List Token} {k : Nat} {value : List Char} (here : (texts tokens)[k]? = some value) :
    ∃ i quote, tokens[i]? = some (.text quote value) ∧ (texts (tokens.take i)).length = k := by
  induction tokens generalizing k with
  | nil => cases here
  | cons token rest ih =>
    cases token with
    | code c =>
      obtain ⟨i, quote, found, count⟩ := ih here
      exact ⟨i + 1, quote, found, count⟩
    | text quote first =>
      cases k with
      | zero =>
        cases here
        exact ⟨0, quote, rfl, rfl⟩
      | succ k =>
        obtain ⟨i, other, found, count⟩ := ih here
        exact ⟨i + 1, other, found, congrArg Nat.succ count⟩

theorem texts_take {bears : Nat → Bool} {tokens others : List Token} (same : SameBut bears tokens others) (i : Nat) :
    (texts (others.take i)).length = (texts (tokens.take i)).length := by
  obtain ⟨sized, same⟩ := same
  induction tokens generalizing others bears i with
  | nil =>
    obtain rfl := List.length_eq_zero_iff.mp sized
    rfl
  | cons token rest ih =>
    obtain ⟨other, others, rfl⟩ := List.exists_cons_of_length_eq_add_one sized
    cases i with
    | zero => rfl
    | succ i =>
      have later := ih i (Nat.succ.inj sized) fun i => same (i + 1)
      rcases same 0 token other rfl rfl with rfl | ⟨-, quote, value, changed, rfl, rfl⟩
      · cases other with
        | code c => exact later
        | text quote value => exact congrArg Nat.succ later
      · exact congrArg Nat.succ later

structure SmallManifest where
  id : List Char
  exec : List Char
  workingDir : List Char
  deriving DecidableEq

/-- A reader of manifests that have an identifier, a name, an executable and its directory, in this order. -/
def smallReader : Reader SmallManifest where
  manifest tokens :=
    match texts tokens with
    | [id, _, exec, workingDir] => .ok ⟨id, exec, workingDir⟩
    | _ => .error "missing field"
  validate _ := .ok ()
  id manifest := String.ofList manifest.id
  paths manifest := [components manifest.exec, components manifest.workingDir]
  bears tokens i := (texts (tokens.take i)).length = 2 || (texts (tokens.take i)).length = 3
  from_strings := by
    intro tokens found read path member
    split at read
    · rename_i id name exec workingDir all
      cases read
      rcases List.mem_pair.mp member with rfl | rfl
      · have third : (texts tokens)[2]? = some exec := by rw [all]; rfl
        obtain ⟨i, quote, here, count⟩ := texts_at third
        exact ⟨i, quote, exec, here, by simp [count], rfl⟩
      · have fourth : (texts tokens)[3]? = some workingDir := by rw [all]; rfl
        obtain ⟨i, quote, here, count⟩ := texts_at fourth
        exact ⟨i, quote, workingDir, here, by simp [count], rfl⟩
    · cases read
  steady := by
    intro tokens others same
    funext i
    simp only [texts_take same i]

theorem clock_valid : validId "clock" = true := by decide

def clockId : AppId := ⟨"clock", clock_valid⟩

/-- A manifest with its executable below a place, and a directory as it is written. -/
def clockManifest (place directory : String) : List Char :=
  ("id = \"clock\"\nname = \"clock\"\nexec = \"" ++ place ++ "/bin\"\nworking_dir = " ++ directory ++ "\n").toList

def clockBundled : List Char := clockManifest "/home/root/apps/clock/current" "\"/home/root/apps/clock/current\""

def clockItems : List Item := (document clockBundled).getD []

def clockContent : List Char := List.replicate 64 '0'

/-- What the two replacements make of a manifest of the clock's. -/
def clockPublished (bundled : List Char) : List Char :=
  replace (currentPath clockId ++ ['"']) (releasePath clockId clockContent ++ ['"'])
    (replace (currentPath clockId ++ ['/']) (releasePath clockId clockContent ++ ['/']) bundled)

theorem materialize_pins_iff_clock :
    Pinned smallReader clockId clockContent clockItems (clockPublished clockBundled) ↔
      WrittenOut smallReader clockId clockContent clockItems :=
  materialize_pins_iff (show document clockBundled = some clockItems by decide +kernel) (by decide +kernel)

/-- The same manifest with its directory as a literal string. -/
def clockLiteral : List Char := clockManifest "/home/root/apps/clock/current" "'/home/root/apps/clock/current'"

def clockLiteralItems : List Item := (document clockLiteral).getD []

theorem literal_path_unpinned :
    document clockLiteral = some clockLiteralItems ∧
      materializeManifestBytes smallReader clockLiteral clockId clockContent = .ok (clockPublished clockLiteral) ∧
        ¬ Pinned smallReader clockId clockContent clockLiteralItems (clockPublished clockLiteral) := by
  refine ⟨by decide +kernel, by decide +kernel, fun pinned => ?_⟩
  have read : smallReader.fromStr (clockPublished clockLiteral) =
      .ok ⟨"clock".toList, releasePath clockId clockContent ++ "/bin".toList, currentPath clockId⟩ := by decide +kernel
  refine pinned.free _ read (components (currentPath clockId)) (List.mem_pair.mpr (.inr rfl)) ?_
  decide +kernel

end Remagic.ManifestText
