import Remagic.TomlText

/-!
# A piece of a document replaced by another

What becomes of a document's strings when a piece of it that needs no escape is replaced by
another in some of the places where a given character follows.
-/

namespace TomlText

/-- The characters that every notation takes as they are. -/
def ordinary (c : Char) : Bool := c.isAlphanum || c = '/' || c = '.' || c = '-' || c = '_'

variable {c : Char}

theorem alphanum_iff :
    c.isAlphanum = true ↔
    ((65 ≤ c.toNat ∧ c.toNat ≤ 90) ∨ 97 ≤ c.toNat ∧ c.toNat ≤ 122) ∨ 48 ≤ c.toNat ∧ c.toNat ≤ 57 := by
  have spelled : c.isAlphanum = (decide ('A'.val ≤ c.val ∧ c.val ≤ 'Z'.val) ||
      (decide ('a'.val ≤ c.val) && decide (c.val ≤ 'z'.val)) || (decide ('0'.val ≤ c.val) && decide (c.val ≤ '9'.val))) := rfl
  rw [spelled]
  simp only [Bool.or_eq_true, Bool.and_eq_true, decide_eq_true_eq, UInt32.le_iff_toNat_le]
  rfl

theorem ordinary_alphanum (alphanum : c.isAlphanum = true) : ordinary c = true := by
  simp only [ordinary, alphanum, Bool.true_or]

theorem ordinary_bounds (plain : ordinary c) : 45 ≤ c.toNat ∧ c.toNat ≤ 122 ∧ c.toNat ≠ 92 := by
  simp only [ordinary, Bool.or_eq_true, decide_eq_true_eq] at plain
  rcases plain with (((letters | rfl) | rfl) | rfl) | rfl
  · have bounds := alphanum_iff.mp letters
    omega
  all_goals decide

theorem plainly_ordinary (plain : ordinary c) (quote : Quote) : plainly quote c = some ([.plain c], .inside .none) := by
  obtain ⟨low, high, backslash⟩ := ordinary_bounds plain
  have unmarked : c ≠ quote.mark := by
    rintro rfl
    revert low
    cases quote <;> decide
  have unescaped : c ≠ '\\' := by
    rintro rfl
    exact backslash rfl
  have allowed : quote.allows c = true := by
    simp only [Quote.allows, Bool.or_eq_true, Bool.and_eq_true, decide_eq_true_eq]
    exact .inl (.inl ⟨by omega, by omega⟩)
  unfold plainly
  rw [if_neg unmarked, if_neg (by simp [unescaped]), if_pos allowed]

/-- The part is the character itself or closes with it. -/
def Written.Reads (unit : Written) (c : Char) : Prop := unit = .plain c ∨ unit = .close c

/-- Some of the places where `old` stands before `follow` have `new` instead. -/
inductive Replaced (old new : List Char) (follow : Char) : List Char → List Char → Prop
  | nil : Replaced old new follow [] []
  | same (c : Char) {s t : List Char} (rest : Replaced old new follow s t) : Replaced old new follow (c :: s) (c :: t)
  | piece {s t : List Char} (rest : Replaced old new follow s t) :
      Replaced old new follow (old ++ follow :: s) (new ++ follow :: t)

/-- The same of the parts of a string. -/
inductive Rewritten (old new : List Char) (follow : Char) : List Written → List Written → Prop
  | nil : Rewritten old new follow [] []
  | same (unit : Written) {v w : List Written} (rest : Rewritten old new follow v w) :
      Rewritten old new follow (unit :: v) (unit :: w)
  | piece {unit : Written} (reads : unit.Reads follow) {v w : List Written} (rest : Rewritten old new follow v w) :
      Rewritten old new follow (old.map .plain ++ unit :: v) (new.map .plain ++ unit :: w)

section
variable {old new : List Char} {follow : Char} {v w units : List Written} {quote : Quote}
  {pending : Pending}

theorem Rewritten.refl (w : List Written) : Rewritten old new follow w w := by
  induction w with
  | nil => exact .nil
  | cons unit rest ih => exact .same unit ih

theorem Rewritten.append {x y : List Written} (first : Rewritten old new follow v w)
    (second : Rewritten old new follow x y) :
    Rewritten old new follow (v ++ x) (w ++ y) := by
  induction first with
  | nil => exact second
  | same unit _ ih => exact .same unit ih
  | piece reads _ ih =>
    rw [List.append_assoc, List.append_assoc, List.cons_append, List.cons_append]
    exact .piece reads ih

/-- Where the piece stands nowhere before the character, nothing is replaced. -/
theorem Rewritten.eq_of_unmentioned (rewritten : Rewritten old new follow v w)
    (unmentioned : ∀ before unit rest, v = before ++ old.map .plain ++ unit :: rest → ¬ unit.Reads follow) : w = v := by
  induction rewritten with
  | nil => rfl
  | same unit _ ih =>
    rw [ih fun before other rest same => unmentioned (unit :: before) other rest (by rw [same]; rfl)]
  | piece reads _ _ => exact absurd reads (unmentioned [] _ _ rfl)

/-- Where the piece stands before the character in one place only, it may be replaced there. -/
theorem Rewritten.once (rewritten : Rewritten old new follow v w) {place : List Written}
    (once : ∀ before unit rest, v = before ++ old.map .plain ++ unit :: rest → unit.Reads follow → before = place) :
    w = v ∨ ∃ unit rest, unit.Reads follow ∧ v = place ++ old.map .plain ++ unit :: rest ∧
      w = place ++ new.map .plain ++ unit :: rest := by
  induction rewritten generalizing place with
  | nil => exact .inl rfl
  | @same unit v w rewritten ih =>
    cases place with
    | nil =>
      left
      rw [rewritten.eq_of_unmentioned]
      intro before other rest same reads
      exact absurd (once (unit :: before) other rest (by rw [same]; rfl) reads) (List.cons_ne_nil _ _)
    | cons first place =>
      have within (before : List Written) (other : Written) (rest : List Written)
          (same : v = before ++ old.map .plain ++ other :: rest) (reads : other.Reads follow) :
          unit = first ∧ before = place :=
        List.cons.inj (once (unit :: before) other rest (by rw [same]; rfl) reads)
      rcases ih fun before other rest same reads => (within before other rest same reads).2 with
        same | ⟨other, rest, reads, same, later⟩
      · exact .inl (by rw [same])
      · obtain ⟨rfl, -⟩ := within place other rest same reads
        exact .inr ⟨other, rest, reads, by rw [same]; rfl, by rw [later]; rfl⟩
  | @piece unit reads v w rewritten ih =>
    obtain rfl := once [] unit v rfl reads
    right
    refine ⟨unit, v, reads, rfl, ?_⟩
    rw [rewritten.eq_of_unmentioned]
    · rfl
    · intro before other rest same found
      have longer := once (old.map .plain ++ unit :: before) other rest
        (by rw [same]; simp only [List.append_assoc, List.cons_append]) found
      exact absurd longer (List.append_ne_nil_of_right_ne_nil _ (List.cons_ne_nil unit before))

/-- What is written, up to what is pending: quotes that end it or are in it may be the ones that follow a piece. -/
def Alike (old new : List Char) (follow : Char) (quote : Quote) (pending : Pending) (v w : List Written) : Prop :=
  match pending with
  | .quotes count => 0 < count ∧
      ∀ unit rest, unit.Reads quote.mark → Rewritten old new follow (v ++ unit :: rest) (w ++ unit :: rest)
  | _ => Rewritten old new follow v w

/-- Alike, whatever is written next. -/
def AlikeBefore (old new : List Char) (follow : Char) (v w : List Written) : Prop :=
  ∀ rest, Rewritten old new follow (v ++ rest) (w ++ rest)

theorem Rewritten.before (rewritten : Rewritten old new follow v w) : AlikeBefore old new follow v w :=
  fun rest => rewritten.append (.refl rest)

theorem AlikeBefore.rewritten (alike : AlikeBefore old new follow v w) : Rewritten old new follow v w := by
  have nothing := alike []
  rwa [List.append_nil, List.append_nil] at nothing

theorem AlikeBefore.alike (alike : AlikeBefore old new follow v w)
    (some_quotes : ∀ count, pending = .quotes count → 0 < count) : Alike old new follow quote pending v w := by
  cases pending with
  | quotes count => exact ⟨some_quotes count rfl, fun unit rest _ => alike (unit :: rest)⟩
  | _ => exact alike.rewritten

theorem AlikeBefore.append (alike : AlikeBefore old new follow v w) (units : List Written) :
    AlikeBefore old new follow (v ++ units) (w ++ units) := by
  intro rest
  rw [List.append_assoc, List.append_assoc]
  exact alike (units ++ rest)

theorem plainly_quotes {count : Nat} (ok : plainly quote c = some (units, .inside (.quotes count))) : 0 < count := by
  unfold plainly at ok
  split_ifs at ok <;> cases ok
  exact Nat.one_pos

theorem advance_quotes {count : Nat} (ok : advance quote pending c = some (units, .inside (.quotes count))) :
    0 < count := by
  cases pending with
  | none => exact plainly_quotes ok
  | fresh =>
    simp only [advance] at ok
    split_ifs at ok
    · cases ok
    · cases ok
    · exact plainly_quotes ok
  | quotes earlier =>
    simp only [advance] at ok
    split_ifs at ok
    · cases ok
      exact Nat.succ_pos earlier
    · cases ok
    · obtain ⟨⟨added, next⟩, plain, same⟩ := Option.map_eq_some_iff.mp ok
      cases same
      exact plainly_quotes plain
  | escape raw =>
    simp only [advance] at ok
    split at ok
    · cases ok
    · cases ok
    · split_ifs at ok
      cases ok
  | digits raw wanted code =>
    simp only [advance] at ok
    split at ok
    · cases ok
    · split_ifs at ok <;> cases ok
  | trim raw ended =>
    simp only [advance] at ok
    split_ifs at ok
    · cases ok
    · obtain ⟨⟨added, next⟩, plain, same⟩ := Option.map_eq_some_iff.mp ok
      cases same
      exact plainly_quotes plain

/-- What is added after pending quotes begins with one of them. -/
theorem advance_after_quotes {count : Nat} (some_quotes : 0 < count) {next : Next}
    (ok : advance quote (.quotes count) c = some (units, next)) :
    (units = [] ∧ next = .inside (.quotes (count + 1))) ∨ ∃ unit rest, unit.Reads quote.mark ∧ units = unit :: rest := by
  obtain ⟨fewer, rfl⟩ := Nat.exists_eq_succ_of_ne_zero some_quotes.ne'
  simp only [advance] at ok
  split_ifs at ok with more closing
  · cases ok
    exact .inl ⟨rfl, rfl⟩
  · cases ok
    right
    by_cases three : fewer + 1 = 3
    · exact ⟨.close quote.mark, _, .inr rfl, by rw [Nat.succ_eq_add_one, three]; rfl⟩
    · obtain ⟨extra, same⟩ : ∃ extra, fewer.succ - 3 = extra + 1 := ⟨fewer - 3, by omega⟩
      exact ⟨.plain quote.mark, _, .inl rfl, by rw [same]; rfl⟩
  · obtain ⟨⟨added, last⟩, -, same⟩ := Option.map_eq_some_iff.mp ok
    cases same
    exact .inr ⟨.plain quote.mark, _, .inl rfl, rfl⟩

/-- A character keeps two strings alike. -/
theorem Alike.advanced {next : Next} (alike : Alike old new follow quote pending v w)
    (ok : advance quote pending c = some (units, next)) :
    match next with
    | .inside later => Alike old new follow quote later (v ++ units) (w ++ units)
    | _ => Rewritten old new follow (v ++ units) (w ++ units) := by
  have settled (before : AlikeBefore old new follow (v ++ units) (w ++ units)) :
      match next with
      | .inside later => Alike old new follow quote later (v ++ units) (w ++ units)
      | _ => Rewritten old new follow (v ++ units) (w ++ units) := by
    cases next with
    | inside later =>
      refine before.alike fun count same => ?_
      rw [same] at ok
      exact advance_quotes ok
    | closed => exact before.rewritten
    | past => exact before.rewritten
  cases pending with
  | quotes count =>
    obtain ⟨some_quotes, alike⟩ := alike
    rcases advance_after_quotes some_quotes ok with ⟨rfl, rfl⟩ | ⟨unit, rest, reads, rfl⟩
    · show Alike old new follow quote (.quotes (count + 1)) (v ++ []) (w ++ [])
      rw [List.append_nil, List.append_nil]
      exact ⟨Nat.succ_pos count, alike⟩
    · refine settled fun more => ?_
      rw [List.append_assoc, List.append_assoc, List.cons_append]
      exact alike unit (rest ++ more) reads
  | _ => exact settled (Rewritten.before alike |>.append units)

/-- Two documents' contents, of which one has some pieces replaced. -/
inductive ItemAlike (old new : List Char) (follow : Char) : Item → Item → Prop
  | code (c : Char) : ItemAlike old new follow (.code c) (.code c)
  | string (quote : Quote) {v w : List Written} (rewritten : Rewritten old new follow v w) :
      ItemAlike old new follow (.string quote v) (.string quote w)

inductive ModeAlike (old new : List Char) (follow : Char) : Mode → Mode → Prop
  | code : ModeAlike old new follow .code .code
  | comment : ModeAlike old new follow .comment .comment
  | opening {mark : Char} (quoted : mark ≠ '/') (count : Nat) :
      ModeAlike old new follow (.opening mark count) (.opening mark count)
  | string (quote : Quote) (pending : Pending) {v w : List Written} (alike : Alike old new follow quote pending v w) :
      ModeAlike old new follow (.string quote v pending) (.string quote w pending)

structure ReadAlike (old new : List Char) (follow : Char) (left right : Reading) : Prop where
  items : List.Forall₂ (ItemAlike old new follow) left.items right.items
  mode : ModeAlike old new follow left.mode right.mode

variable {items others : List Item} {left right after : Reading}

theorem items_append (alike : List.Forall₂ (ItemAlike old new follow) items others) {item other : Item}
    (last : ItemAlike old new follow item other) :
    List.Forall₂ (ItemAlike old new follow) (items ++ [item]) (others ++ [other]) :=
  List.rel_append alike (.cons last .nil)

theorem readCode_alike (alike : List.Forall₂ (ItemAlike old new follow) items others)
    (ok : readCode items c = some after) :
    ∃ next, readCode others c = some next ∧ ReadAlike old new follow after next := by
  unfold readCode at ok ⊢
  split_ifs at ok ⊢ with slash
  · cases ok
    exact ⟨_, rfl, alike, .opening slash 1⟩
  · cases ok
    exact ⟨_, rfl, alike, .comment⟩
  · cases ok
    exact ⟨_, rfl, items_append alike (.code c), .code⟩

theorem readString_alike (alike : List.Forall₂ (ItemAlike old new follow) items others)
    (written : Alike old new follow quote pending v w) (ok : readString items quote v pending c = some after) :
    ∃ next, readString others quote w pending c = some next ∧ ReadAlike old new follow after next := by
  unfold readString at ok ⊢
  cases advanced : advance quote pending c with
  | none =>
    rw [advanced] at ok
    cases ok
  | some added =>
    obtain ⟨units, next⟩ := added
    rw [advanced] at ok
    have written := written.advanced advanced
    cases next with
    | inside later =>
      cases ok
      exact ⟨_, rfl, alike, .string quote later written⟩
    | closed =>
      cases ok
      exact ⟨_, rfl, items_append alike (.string quote written), .code⟩
    | past => exact readCode_alike (items_append alike (.string quote written)) ok

/-- A character keeps two readings alike. -/
theorem read_alike (alike : ReadAlike old new follow left right) (ok : read left c = some after) :
    ∃ next, read right c = some next ∧ ReadAlike old new follow after next := by
  obtain ⟨items, mode⟩ := left
  obtain ⟨others, mode'⟩ := right
  obtain ⟨alike, modes⟩ := alike
  simp only [read] at ok ⊢
  cases modes with
  | code => exact readCode_alike alike ok
  | comment =>
    simp only at ok ⊢
    split_ifs at ok ⊢
    · cases ok
      exact ⟨_, rfl, items_append alike (.code c), .code⟩
    · cases ok
      exact ⟨_, rfl, alike, .comment⟩
  | @opening mark quoted count =>
    simp only at ok ⊢
    split_ifs at ok ⊢
    · cases ok
      exact ⟨_, rfl, alike, .opening quoted 2⟩
    · cases ok
      exact ⟨_, rfl, alike, .string (multiOf mark) .fresh .nil⟩
    · exact readString_alike alike (show Alike old new follow (singleOf mark) .none [] [] from .nil) ok
    · exact readCode_alike (items_append alike (.string (singleOf mark) (.refl [.close mark]))) ok
  | string quote pending written => exact readString_alike alike written ok

/-! ## Where a piece is read -/

theorem read_ordinary {tail : List Char} (plain : ∀ c ∈ tail, ordinary c) (items : List Item) (quote : Quote)
    (v : List Written) :
    tail.foldlM read ⟨items, .string quote v .none⟩ = some ⟨items, .string quote (v ++ tail.map .plain) .none⟩ := by
  induction tail generalizing v with
  | nil => simp
  | cons c rest ih =>
    have first : read ⟨items, .string quote v .none⟩ c = some ⟨items, .string quote (v ++ [.plain c]) .none⟩ := by
      simp only [read, readString, advance, plainly_ordinary (plain c List.mem_cons_self) quote]
    rw [List.foldlM_cons, first]
    simp only [Option.bind_eq_bind, Option.bind_some]
    rw [ih fun c member => plain c (List.mem_cons_of_mem _ member), List.map_cons, List.append_assoc, List.cons_append,
      List.nil_append]

theorem read_comment {tail : List Char} (inline : '\n' ∉ tail) (items : List Item) :
    tail.foldlM read ⟨items, .comment⟩ = some ⟨items, .comment⟩ := by
  induction tail with
  | nil => rfl
  | cons c rest ih =>
    obtain ⟨here, later⟩ := not_or.mp fun found => inline (List.mem_cons.mpr found)
    have first : read ⟨items, .comment⟩ c = some ⟨items, .comment⟩ := by
      simp only [read, if_neg (Ne.symm here)]
    rw [List.foldlM_cons, first]
    exact ih later

theorem plainly_slash (quote : Quote) : plainly quote '/' = some ([.plain '/'], .inside .none) :=
  plainly_ordinary (by decide) quote

/-- Whatever is pending, a slash is written as it stands, if it can follow at all. -/
theorem Alike.slash {next : Next} (alike : Alike old new follow quote pending v w)
    (ok : advance quote pending '/' = some (units, next)) :
    next = .past ∨ next = .inside .none ∧ ∃ before, units = before ++ [.plain '/'] ∧
      Rewritten old new follow (v ++ before) (w ++ before) := by
  cases pending with
  | none =>
    cases (plainly_slash quote).symm.trans ok
    exact .inr ⟨rfl, [], rfl, by rwa [List.append_nil, List.append_nil]⟩
  | fresh =>
    cases (plainly_slash quote).symm.trans ok
    exact .inr ⟨rfl, [], rfl, by rwa [List.append_nil, List.append_nil]⟩
  | quotes count =>
    obtain ⟨some_quotes, alike⟩ := alike
    have unmarked : ¬ ('/' = quote.mark) := by cases quote <;> decide
    simp only [advance, plainly_slash, unmarked] at ok
    split_ifs at ok with none_more closing
    · simp at none_more
    · cases ok
      exact .inl rfl
    · cases ok
      obtain ⟨fewer, rfl⟩ := Nat.exists_eq_succ_of_ne_zero some_quotes.ne'
      exact .inr ⟨rfl, _, rfl, alike (.plain quote.mark) _ (.inl rfl)⟩
  | escape raw =>
    have no_escape : simpleEscape '/' = none ∧ digitsWanted '/' = none ∧ blank '/' = false := by decide
    simp [advance, no_escape] at ok
  | digits raw wanted code =>
    have no_digit : hexDigit '/' = none := by decide
    simp [advance, no_digit] at ok
  | trim raw ended =>
    have not_blank : blank '/' = false := by decide
    simp only [advance, not_blank, plainly_slash, Bool.false_eq_true, if_false] at ok
    split_ifs at ok
    cases ok
    exact .inr ⟨rfl, [.escape raw []], rfl, Rewritten.append alike (.refl _)⟩

theorem readString_slash (items : List Item) (quote : Quote) (v : List Written) (pending : Pending) :
    readString items quote v pending '/' =
      match advance quote pending '/' with
      | some (units, .inside later) => some ⟨items, .string quote (v ++ units) later⟩
      | some (units, .closed) => some ⟨items ++ [.string quote (v ++ units)], .code⟩
      | _ => none := by
  unfold readString
  split <;> simp_all [readCode]

theorem slash_alike (alike : ReadAlike old new follow left right) (ok : read left '/' = some after) :
    (left.mode = .comment ∧ right.mode = .comment) ∨ ∃ quote v w others,
      after.mode = .string quote (v ++ [.plain '/']) .none ∧ Rewritten old new follow v w ∧
        read right '/' = some ⟨others, .string quote (w ++ [.plain '/']) .none⟩ ∧
          List.Forall₂ (ItemAlike old new follow) after.items others := by
  obtain ⟨items, mode⟩ := left
  obtain ⟨others, mode'⟩ := right
  obtain ⟨alike, modes⟩ := alike
  simp only [read] at ok ⊢
  cases modes with
  | code => cases ok
  | comment => exact .inl ⟨rfl, rfl⟩
  | @opening mark quoted count =>
    right
    simp only [if_neg (Ne.symm quoted)] at ok ⊢
    split_ifs at ok ⊢ with first
    · rw [readString_slash, advance, plainly_slash] at ok ⊢
      cases ok
      exact ⟨singleOf mark, [], [], others, rfl, .nil, rfl, alike⟩
    · cases ok
  | @string quote pending v w written =>
    right
    simp only [readString_slash] at ok ⊢
    cases advanced : advance quote pending '/' with
    | none =>
      rw [advanced] at ok
      cases ok
    | some added =>
      obtain ⟨units, next⟩ := added
      rw [advanced] at ok
      rcases written.slash advanced with rfl | ⟨rfl, before, rfl, rewritten⟩
      · cases ok
      · cases ok
        refine ⟨quote, v ++ before, w ++ before, others, ?_, rewritten, ?_, alike⟩
        · rw [List.append_assoc]
        · rw [List.append_assoc]

/-- A character that may follow a piece is written as it stands, closes the string, or is kept for later. -/
theorem plainly_follow (kept : follow ≠ '\\') {next : Next} (ok : plainly quote follow = some (units, next)) :
    (∃ unit, unit.Reads follow ∧ units = [unit]) ∨ units = [] ∧ next = .inside (.quotes 1) ∧ follow = quote.mark := by
  unfold plainly at ok
  split_ifs at ok with marked multi escape allowed
  · cases ok
    exact .inr ⟨rfl, rfl, marked⟩
  · cases ok
    exact .inl ⟨_, .inr rfl, rfl⟩
  · simp [kept] at escape
  · cases ok
    exact .inl ⟨_, .inl rfl, rfl⟩

/-- What a piece may be: characters that need no escape, the first of them a slash. -/
structure Piece (old : List Char) : Prop where
  slash : ∃ tail, old = '/' :: tail
  plain : ∀ c ∈ old, ordinary c

theorem Piece.inline (piece : Piece old) (ended : follow ≠ '\n') : '\n' ∉ old ++ [follow] := by
  intro found
  rcases List.mem_append.mp found with found | found
  · exact absurd (piece.plain _ found) (by decide)
  · exact ended (List.mem_singleton.mp found).symm

/-- A piece in a string, up to the character after it. -/
theorem Rewritten.piece_end {unit : Written} (rewritten : Rewritten old new follow v w) (reads : unit.Reads follow)
    (rest : List Written) :
    Rewritten old new follow (v ++ old.map .plain ++ unit :: rest) (w ++ new.map .plain ++ unit :: rest) := by
  rw [List.append_assoc, List.append_assoc]
  exact rewritten.append (.piece reads (.refl rest))

theorem piece_alike (from_piece : Piece old) (to_piece : Piece new) (kept : follow ≠ '\\') (ended : follow ≠ '\n')
    (alike : ReadAlike old new follow left right) (ok : (old ++ [follow]).foldlM read left = some after) :
    ∃ next, (new ++ [follow]).foldlM read right = some next ∧ ReadAlike old new follow after next := by
  have comment (modes : left.mode = .comment ∧ right.mode = .comment) :
      ∃ next, (new ++ [follow]).foldlM read right = some next ∧ ReadAlike old new follow after next := by
    obtain ⟨items, mode⟩ := left
    obtain ⟨others, mode'⟩ := right
    obtain ⟨rfl, rfl⟩ := modes
    rw [read_comment (from_piece.inline ended)] at ok
    cases ok
    exact ⟨_, read_comment (to_piece.inline ended) others, alike⟩
  obtain ⟨tail, shape⟩ := from_piece.slash
  obtain ⟨tail', shape'⟩ := to_piece.slash
  have plain : ∀ c ∈ tail, ordinary c := fun c member => from_piece.plain c (by rw [shape]; exact .tail _ member)
  have plain' : ∀ c ∈ tail', ordinary c := fun c member => to_piece.plain c (by rw [shape']; exact .tail _ member)
  have opened := ok
  rw [shape, List.cons_append, List.foldlM_cons] at opened
  obtain ⟨first, slash, rest⟩ := Option.bind_eq_some_iff.mp opened
  rcases slash_alike alike slash with modes | ⟨quote, v, w, others, mode, rewritten, slash', items⟩
  · exact comment modes
  · obtain ⟨found, at_string⟩ := first
    cases mode
    rw [List.foldlM_append, read_ordinary plain] at rest
    have before : (new ++ [follow]).foldlM read right =
        read ⟨others, .string quote (w ++ [.plain '/'] ++ tail'.map .plain) .none⟩ follow := by
      rw [shape', List.cons_append, List.foldlM_cons, slash']
      simp only [Option.bind_eq_bind, Option.bind_some]
      rw [List.foldlM_append, read_ordinary plain']
      simp only [Option.bind_eq_bind, Option.bind_some, List.foldlM_cons, List.foldlM_nil]
      exact Option.bind_fun_some _
    rw [before]
    have last : read ⟨found, .string quote (v ++ [.plain '/'] ++ tail.map .plain) .none⟩ follow = some after := by
      simp only [Option.bind_eq_bind, Option.bind_some, List.foldlM_cons, List.foldlM_nil] at rest
      exact (Option.bind_fun_some _).symm.trans rest
    have whole (u : List Written) : u ++ [.plain '/'] ++ tail.map .plain = u ++ old.map .plain := by
      rw [shape, List.append_assoc]
      rfl
    have whole' (u : List Written) : u ++ [.plain '/'] ++ tail'.map .plain = u ++ new.map .plain := by
      rw [shape', List.append_assoc]
      rfl
    rw [whole] at last
    rw [whole']
    simp only [read, readString, advance] at last ⊢
    cases advanced : plainly quote follow with
    | none =>
      rw [advanced] at last
      cases last
    | some added =>
      obtain ⟨units, next⟩ := added
      rw [advanced] at last
      rcases plainly_follow kept advanced with ⟨unit, reads, rfl⟩ | ⟨rfl, rfl, marked⟩
      · have alike : AlikeBefore old new follow (v ++ old.map .plain ++ [unit]) (w ++ new.map .plain ++ [unit]) := by
          intro rest
          rw [List.append_assoc _ [unit] rest, List.append_assoc _ [unit] rest]
          exact rewritten.piece_end reads rest
        cases next with
        | inside later =>
          cases last
          refine ⟨_, rfl, items, .string quote later (alike.alike fun count same => ?_)⟩
          rw [same] at advanced
          exact plainly_quotes advanced
        | closed =>
          cases last
          exact ⟨_, rfl, items_append items (.string quote alike.rewritten), .code⟩
        | past => exact readCode_alike (items_append items (.string quote alike.rewritten)) last
      · cases last
        refine ⟨_, rfl, items, .string quote (.quotes 1) ⟨Nat.one_pos, fun unit rest reads => ?_⟩⟩
        rw [List.append_nil, List.append_nil]
        rw [← marked] at reads
        exact rewritten.piece_end reads rest

/-- The replacement of a text is read as the text is. -/
theorem Replaced.read {s t : List Char} (from_piece : Piece old) (to_piece : Piece new) (kept : follow ≠ '\\')
    (ended : follow ≠ '\n') (replaced : Replaced old new follow s t) (alike : ReadAlike old new follow left right)
    (ok : s.foldlM TomlText.read left = some after) :
    ∃ next, t.foldlM TomlText.read right = some next ∧ ReadAlike old new follow after next := by
  induction replaced generalizing left right with
  | nil =>
    cases ok
    exact ⟨right, rfl, alike⟩
  | same c _ ih =>
    rw [List.foldlM_cons] at ok ⊢
    obtain ⟨middle, one, ok⟩ := Option.bind_eq_some_iff.mp ok
    obtain ⟨other, same, alike⟩ := read_alike alike one
    rw [same]
    exact ih alike ok
  | @piece s t _ ih =>
    rw [List.append_cons, List.foldlM_append] at ok ⊢
    obtain ⟨middle, one, ok⟩ := Option.bind_eq_some_iff.mp ok
    obtain ⟨other, same, alike⟩ := piece_alike from_piece to_piece kept ended alike one
    rw [same]
    exact ih alike ok

theorem finish_alike (alike : ReadAlike old new follow left right) (ok : finish left = some items) :
    ∃ others, finish right = some others ∧ List.Forall₂ (ItemAlike old new follow) items others := by
  obtain ⟨found, mode⟩ := left
  obtain ⟨others, mode'⟩ := right
  obtain ⟨alike, modes⟩ := alike
  simp only [finish] at ok ⊢
  cases modes with
  | code =>
    cases ok
    exact ⟨others, rfl, alike⟩
  | comment =>
    cases ok
    exact ⟨others, rfl, alike⟩
  | opening quoted count =>
    simp only at ok ⊢
    split_ifs at ok ⊢
    cases ok
    exact ⟨_, rfl, items_append alike (.string _ (.refl _))⟩
  | string quote pending written =>
    cases pending with
    | quotes count =>
      simp only at ok ⊢
      split_ifs at ok ⊢ with closing
      cases ok
      refine ⟨_, rfl, items_append alike (.string quote ?_)⟩
      have past : advance quote (.quotes count) '\n' =
          some (List.replicate (count - 3) (.plain quote.mark) ++ List.replicate 3 (.close quote.mark), .past) := by
        have unmarked : ¬ ('\n' = quote.mark) := by cases quote <;> decide
        simp [advance, unmarked, closing]
      exact written.advanced past
    | _ => cases ok

theorem document_replaced {s t : List Char} (from_piece : Piece old) (to_piece : Piece new) (kept : follow ≠ '\\')
    (ended : follow ≠ '\n') (replaced : Replaced old new follow s t) (ok : document s = some items) :
    ∃ others, document t = some others ∧ List.Forall₂ (ItemAlike old new follow) items others := by
  obtain ⟨last, found, ok⟩ := Option.bind_eq_some_iff.mp ok
  have start : ReadAlike old new follow {} {} := ⟨.nil, .code⟩
  obtain ⟨other, same, alike⟩ := replaced.read from_piece to_piece kept ended start found
  obtain ⟨others, finished, alike⟩ := finish_alike alike ok
  refine ⟨others, ?_, alike⟩
  unfold document
  rw [same]
  exact finished

end

end TomlText
