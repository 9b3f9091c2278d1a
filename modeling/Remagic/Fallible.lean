import Mathlib.Tactic.Common

/-!
# Fallible edits in place

A computation that edits a state and may fail after an edit. A specification
says how it ends: with which result, and with which edits made. The strongest
kind is all or nothing: either it fails and the state is the one before the
whole call, or it succeeds and the result and the new state meet the
postcondition.
-/

namespace Fallible
universe u
variable {ε σ α β : Type u}

/-- `if condition { return Err(error) }`. -/
def failIf (condition : Prop) [Decidable condition] (error : ε) : ExceptT ε (StateM σ) PUnit :=
  if condition then throw error else pure ⟨⟩

/-- Run from `s`, the computation ends with a result and a state that meet `post`. -/
def Ends (m : ExceptT ε (StateM σ) α) (s : σ) (post : Except ε α → σ → Prop) : Prop := post (m.run s).1 (m.run s).2

/-- Run from `s` as part of a call that began at `origin`, the computation fails
    and leaves `origin`, or succeeds and meets `post`. -/
def AllOrNothing (origin : σ) (m : ExceptT ε (StateM σ) α) (s : σ) (post : α → σ → Prop) : Prop :=
  match m.run s with
  | (.error _, after) => after = origin
  | (.ok result, after) => post result after

variable {origin s : σ} {post : α → σ → Prop} {next : PUnit → ExceptT ε (StateM σ) α}

theorem allOrNothing_pure {result : α} (holds : post result s) :
    AllOrNothing origin (pure result : ExceptT ε (StateM σ) α) s post := holds

theorem allOrNothing_throw (error : ε) : AllOrNothing s (throw error : ExceptT ε (StateM σ) α) s post := rfl

theorem run_bind (m : ExceptT ε (StateM σ) α) (next : α → ExceptT ε (StateM σ) β) :
    (m >>= next).run s =
      match m.run s with
      | (.error e, after) => (.error e, after)
      | (.ok a, after) => (next a).run after := by
  show (ExceptT.bind m next).run s = _
  simp only [ExceptT.bind, ExceptT.run, ExceptT.mk, bind, StateT.bind]
  rcases m s with ⟨result, after⟩
  cases result with
  | error e => rfl
  | ok a => rfl

/-- The rule of sequence: what follows starts from a state and a result that
    meet the first computation's postcondition. -/
theorem allOrNothing_bind {m : ExceptT ε (StateM σ) α} {next : α → ExceptT ε (StateM σ) β}
    {middle : α → σ → Prop} {post : β → σ → Prop} (first : AllOrNothing origin m s middle)
    (second : ∀ a t, middle a t → AllOrNothing origin (next a) t post) :
    AllOrNothing origin (m >>= next) s post := by
  unfold AllOrNothing at first ⊢
  rw [run_bind]
  rcases left : m.run s with ⟨result, after⟩
  rw [left] at first
  cases result with
  | error e => exact first
  | ok a => exact second a after first

/-- The rule of consequence. -/
theorem AllOrNothing.weaken {m : ExceptT ε (StateM σ) α} {weaker : α → σ → Prop}
    (holds : AllOrNothing origin m s post) (implied : ∀ a t, post a t → weaker a t) :
    AllOrNothing origin m s weaker := by
  unfold AllOrNothing at holds ⊢
  rcases run : m.run s with ⟨result, after⟩
  rw [run] at holds
  cases result with
  | error e => exact holds
  | ok a => exact implied a after holds

theorem allOrNothing_map {m : ExceptT ε (StateM σ) α} {f : α → β} {post : β → σ → Prop}
    (holds : AllOrNothing origin m s fun a t => post (f a) t) : AllOrNothing origin (f <$> m) s post := by
  rw [map_eq_pure_bind]
  exact allOrNothing_bind holds fun a t meets => meets

theorem allOrNothing_get_bind {next : σ → ExceptT ε (StateM σ) α}
    (rest : AllOrNothing origin (next s) s post) : AllOrNothing origin (get >>= next) s post := rest

theorem allOrNothing_modify_bind {edit : σ → σ} (rest : AllOrNothing origin (next ⟨⟩) (edit s) post) :
    AllOrNothing origin (modify edit >>= next) s post := rest

theorem allOrNothing_failIf {condition : Prop} [Decidable condition] {error : ε}
    (passed : ¬ condition → AllOrNothing s (next ⟨⟩) s post) :
    AllOrNothing s (failIf condition error >>= next) s post := by
  unfold failIf
  by_cases fails : condition
  · simp only [fails, if_true]
    exact allOrNothing_throw error
  · simp only [fails, if_false]
    exact passed fails

/-- A computation that meets its specification from the state where it begins is
    one of the two outcomes. -/
theorem AllOrNothing.cases {m : ExceptT ε (StateM σ) α} (holds : AllOrNothing s m s post) :
    (∃ error, m.run s = (.error error, s)) ∨ ∃ result after, m.run s = (.ok result, after) ∧ post result after := by
  unfold AllOrNothing at holds
  rcases run : m.run s with ⟨result, after⟩
  rw [run] at holds
  cases result with
  | error e => exact .inl ⟨e, by rw [show after = s from holds]⟩
  | ok a => exact .inr ⟨a, after, rfl, holds⟩

/-- What fails leaves the state as it was. -/
theorem AllOrNothing.refused {m : ExceptT ε (StateM σ) α} (holds : AllOrNothing s m s post) {error : ε}
    (failed : (m.run s).1 = .error error) : (m.run s).2 = s := by
  rcases holds.cases with ⟨_, refused⟩ | ⟨result, after, ended, _⟩
  · rw [refused]
  · rw [ended] at failed
    cases failed

/-- What succeeds meets the postcondition. -/
theorem AllOrNothing.accepted {m : ExceptT ε (StateM σ) α} (holds : AllOrNothing s m s post) {result : α}
    (succeeded : (m.run s).1 = .ok result) : post result (m.run s).2 := by
  rcases holds.cases with ⟨_, refused⟩ | ⟨_, after, ended, met⟩
  · rw [refused] at succeeded
    cases succeeded
  · rw [ended] at succeeded ⊢
    cases succeeded
    exact met

/-! ## Any ending -/

section
variable {ends : Except ε α → σ → Prop}

theorem ends_pure {result : α} (holds : ends (.ok result) s) : Ends (pure result : ExceptT ε (StateM σ) α) s ends := holds

theorem ends_throw {error : ε} (holds : ends (.error error) s) : Ends (throw error : ExceptT ε (StateM σ) α) s ends :=
  holds

theorem ends_bind {m : ExceptT ε (StateM σ) α} {next : α → ExceptT ε (StateM σ) β} {ends : Except ε β → σ → Prop}
    (first : Ends m s fun result t =>
      match result with
      | .error error => ends (.error error) t
      | .ok a => Ends (next a) t ends) :
    Ends (m >>= next) s ends := by
  unfold Ends at first ⊢
  rw [run_bind]
  rcases left : m.run s with ⟨result, after⟩
  rw [left] at first
  cases result with
  | error error => exact first
  | ok a => exact first

theorem ends_get_bind {next : σ → ExceptT ε (StateM σ) α} (rest : Ends (next s) s ends) : Ends (get >>= next) s ends :=
  rest

theorem ends_modify_bind {edit : σ → σ} (rest : Ends (next ⟨⟩) (edit s) ends) : Ends (modify edit >>= next) s ends := rest

theorem ends_set_bind {t : σ} (rest : Ends (next ⟨⟩) t ends) : Ends (set t >>= next) s ends := rest

theorem ends_failIf {condition : Prop} [Decidable condition] {error : ε} (failed : condition → ends (.error error) s)
    (passed : ¬ condition → Ends (next ⟨⟩) s ends) : Ends (failIf condition error >>= next) s ends := by
  unfold failIf
  by_cases fails : condition
  · simp only [fails, if_true]
    exact failed fails
  · simp only [fails, if_false]
    exact passed fails

theorem Ends.weaken {m : ExceptT ε (StateM σ) α} {weaker : Except ε α → σ → Prop} (holds : Ends m s ends)
    (implied : ∀ result t, ends result t → weaker result t) : Ends m s weaker := implied _ _ holds

end

/-! ## Where it succeeds -/

/-- From a state that meets `pre`, the computation fails, or leaves a result and a state
    that meet `post`. -/
def Leaves (pre : σ → Prop) (m : ExceptT ε (StateM σ) α) (post : α → σ → Prop) : Prop :=
  ∀ s, pre s → Ends m s fun result after => ∀ a, result = .ok a → post a after

section
variable {pre stronger : σ → Prop} {m : ExceptT ε (StateM σ) α}

theorem leaves_pure {result : α} (holds : ∀ s, pre s → post result s) : Leaves pre (pure result : ExceptT ε (StateM σ) α) post := by
  intro s meets
  refine ends_pure fun a same => ?_
  cases same
  exact holds s meets

theorem leaves_throw {error : ε} : Leaves pre (throw error : ExceptT ε (StateM σ) α) post := by
  intro s _
  refine ends_throw fun a same => ?_
  cases same

theorem leaves_get {post : σ → σ → Prop} (holds : ∀ s, pre s → post s s) : Leaves pre (get : ExceptT ε (StateM σ) σ) post := by
  intro s meets a same
  cases same
  exact holds s meets

theorem leaves_modify {edit : σ → σ} {post : PUnit → σ → Prop} (holds : ∀ s, pre s → post ⟨⟩ (edit s)) :
    Leaves pre (modify edit : ExceptT ε (StateM σ) PUnit) post := by
  intro s meets a same
  cases same
  exact holds s meets

theorem leaves_bind {next : α → ExceptT ε (StateM σ) β} {middle : α → σ → Prop} {post : β → σ → Prop}
    (first : Leaves pre m middle) (second : ∀ a, Leaves (middle a) (next a) post) : Leaves pre (m >>= next) post := by
  intro s meets
  refine ends_bind ((first s meets).weaken fun result t holds => ?_)
  cases result with
  | error error =>
    intro b same
    cases same
  | ok a => exact second a t (holds a rfl)

theorem Leaves.weaken {weaker : α → σ → Prop} (holds : Leaves pre m post) (before : ∀ s, stronger s → pre s)
    (after : ∀ a s, post a s → weaker a s) : Leaves stronger m weaker :=
  fun s meets => (holds s (before s meets)).weaken fun _ t left a same => after a t (left a same)

theorem leaves_ite {condition : Prop} [Decidable condition] {other : ExceptT ε (StateM σ) α}
    (taken : condition → Leaves pre m post) (passed : ¬condition → Leaves pre other post) :
    Leaves pre (if condition then m else other) post := by
  by_cases holds : condition
  · rw [if_pos holds]
    exact taken holds
  · rw [if_neg holds]
    exact passed holds

end

/-! ## A computation without a state -/

/-- What follows a computation that succeeded. -/
theorem ok_of_bind {x : Except ε α} {f : α → Except ε β} {result : β} (ok : (x >>= f) = .ok result) :
    ∃ a, x = .ok a ∧ f a = .ok result := by
  cases x with
  | error e => cases ok
  | ok a => exact ⟨a, rfl, ok⟩

/-- What follows a check that did not throw. -/
theorem ok_of_guard {condition : Prop} [Decidable condition] {error : ε} {next : Except ε α} {result : α}
    (ok : (do
      if condition then throw error
      next) = .ok result) : ¬ condition ∧ next = .ok result := by
  by_cases holds : condition
  · rw [if_pos holds] at ok
    cases ok
  · rw [if_neg holds] at ok
    exact ⟨holds, ok⟩

theorem mapM_ok {f : α → Except ε β} {items : List α} {results : List β}
    (ok : items.mapM f = .ok results) : List.Forall₂ (fun item result => f item = .ok result) items results := by
  induction items generalizing results with
  | nil =>
    cases ok
    exact .nil
  | cons item rest ih =>
    rw [List.mapM_cons] at ok
    obtain ⟨result, one, ok⟩ := ok_of_bind ok
    obtain ⟨others, more, ok⟩ := ok_of_bind ok
    cases ok
    exact .cons one (ih more)

/-- What every step of a fold that succeeded keeps. -/
theorem foldlM_keeps {f : σ → α → Except ε σ} {P : σ → Prop} (keeps : ∀ s item t, P s → f s item = .ok t → P t)
    {items : List α} {s t : σ} (holds : P s) (ok : items.foldlM f s = .ok t) : P t := by
  induction items generalizing s with
  | nil =>
    cases ok
    exact holds
  | cons item rest ih =>
    rw [List.foldlM_cons] at ok
    obtain ⟨next, one, ok⟩ := ok_of_bind ok
    exact ih (keeps s item next holds one) ok

/-- A fold does not succeed where the step for one of its items never does. -/
theorem foldlM_fails {f : σ → α → Except ε σ} {P : σ → Prop} (keeps : ∀ s item t, P s → f s item = .ok t → P t)
    {items : List α} {bad : α} (member : bad ∈ items) (fails : ∀ s t, P s → f s bad ≠ .ok t) {s t : σ} (holds : P s) :
    items.foldlM f s ≠ .ok t := by
  intro ok
  induction items generalizing s with
  | nil => exact absurd member List.not_mem_nil
  | cons item rest ih =>
    rw [List.foldlM_cons] at ok
    obtain ⟨next, one, ok⟩ := ok_of_bind ok
    rcases List.mem_cons.mp member with rfl | later
    · exact fails s next holds one
    · exact ih later (keeps s item next holds one) ok

/-- A loop that ends has ended each of its turns. -/
theorem ok_of_for {ε β : Type} {items : List β} {turn : β → Unit → Except ε (ForInStep Unit)}
    (yields : ∀ item step, turn item () = .ok step → step = .yield ())
    (ok : (forIn items () turn : Except ε Unit) = .ok ()) :
    ∀ item ∈ items, turn item () = .ok (.yield ()) := by
  induction items with
  | nil => nofun
  | cons first rest ih =>
    rw [List.forIn_cons] at ok
    obtain ⟨step, done, ok⟩ := ok_of_bind ok
    obtain rfl := yields first step done
    rintro item (_ | ⟨_, member⟩)
    · exact done
    · exact ih ok item member
end Fallible
