import Mathlib.Tactic.Common

/-!
# Programs that share a state

A program performs operations on a state that others share. An operation is one
indivisible step: it waits until it is ready, is told what the world answers, and
replies. What a program guarantees of each operation is shown along the program,
while what it relies on the others for may happen between the operations. Where each
one's guarantee is what the others rely on, all of them go on side by side.
-/

namespace Programs
universe u

inductive Program (ω : Type → Type u) (α : Type) : Type (max 1 u) where
  | done (result : α)
  | perform {β : Type} (op : ω β) (next : β → Program ω α)

/-- What the operations do. -/
structure Meaning (ω : Type → Type u) (ε σ : Type) where
  ready : {β : Type} → ω β → σ → Bool
  exec : {β : Type} → ω β → ε → σ → β × σ

variable {ω : Type → Type u} {ε σ θ α β : Type} {next : β → Program ω α} {condition : Bool} {describe : θ → θ}

namespace Program

def bind : Program ω α → (α → Program ω β) → Program ω β
  | .done result, next => next result
  | .perform op following, next => .perform op fun reply => (following reply).bind next

instance : Monad (Program ω) where
  pure := .done
  bind := .bind

/-- Perform one operation. -/
def op (operation : ω α) : Program ω α := .perform operation .done

/-- The next operation, if it is ready. -/
def advance (meaning : Meaning ω ε σ) : Program ω α → ε → σ → Program ω α × σ
  | .done result, _, s => (.done result, s)
  | .perform operation next, answer, s =>
    if meaning.ready operation s then
      (next (meaning.exec operation answer s).1, (meaning.exec operation answer s).2)
    else (.perform operation next, s)

/-- Every operation that the program may perform is allowed. -/
def Only (allowed : {γ : Type} → ω γ → Prop) : Program ω α → Prop
  | .done _ => True
  | .perform operation next => allowed operation ∧ ∀ reply, (next reply).Only allowed

theorem only_bind {allowed : {γ : Type} → ω γ → Prop} {program : Program ω β} (first : program.Only allowed)
    (second : ∀ result, (next result).Only allowed) : (program >>= next).Only allowed := by
  induction program with
  | done result => exact second result
  | perform operation following ih => exact ⟨first.1, fun reply => ih reply (first.2 reply)⟩

theorem Only.and {allowed other : {γ : Type} → ω γ → Prop} {program : Program ω α} (first : program.Only allowed)
    (second : program.Only other) : program.Only fun operation => allowed operation ∧ other operation := by
  induction program with
  | done result => exact trivial
  | perform operation next ih => exact ⟨⟨first.1, second.1⟩, fun reply => ih reply (first.2 reply) (second.2 reply)⟩

end Program

/-- A program that ends with a result or with an error. -/
abbrev Job (ω : Type → Type u) (θ α : Type) := ExceptT θ (Program ω) α

namespace Job

/-- Perform one operation, which does not fail. -/
def op (operation : ω α) : Job ω θ α := ExceptT.lift (Program.op operation)

/-- Perform one operation that may fail. -/
def try' (operation : ω (Except θ α)) : Job ω θ α := ExceptT.mk (Program.op operation)

/-- Whatever the job ends with, go on. -/
def outcome (job : Job ω θ α) : Job ω θ (Except θ α) := ExceptT.lift job.run

def require (condition : Bool) (refusal : θ) : Job ω θ Unit := if condition then pure () else throw refusal

def ofOption (value : Option α) (refusal : θ) : Job ω θ α :=
  match value with
  | some result => pure result
  | none => throw refusal

def ofResult (value : Except θ α) : Job ω θ α := ExceptT.mk (pure value)

/-- Describe an error on its way out. -/
def mapError (describe : θ → θ) (job : Job ω θ α) : Job ω θ α := do
  match ← outcome job with
  | .ok result => pure result
  | .error error => throw (describe error)

def doIf (condition : Bool) (job : Job ω θ Unit) : Job ω θ Unit := if condition then job else pure ()

/-- Go on with the result, or with what is to be done about the error. -/
def handle (result : Except θ α) (handler : θ → Job ω θ α) : Job ω θ α :=
  match result with
  | .ok value => pure value
  | .error error => handler error

/-- Do the job on each item in turn. -/
def each (job : β → Job ω θ Unit) : List β → Job ω θ Unit
  | [] => pure ()
  | item :: rest => do
    job item
    each job rest

/-! ## Jobs that perform only certain operations -/

def Only (allowed : {γ : Type} → ω γ → Prop) (job : Job ω θ α) : Prop := Program.Only allowed (ExceptT.run job)

variable {allowed : {γ : Type} → ω γ → Prop}

@[grind .] theorem only_pure (result : α) : Only allowed (pure result : Job ω θ α) := trivial

@[grind .] theorem only_throw (error : θ) : Only allowed (throw error : Job ω θ α) := trivial

@[grind .] theorem only_ofResult (value : Except θ α) : Only allowed (ofResult value : Job ω θ α) := trivial

@[grind ←] theorem only_bind {job : Job ω θ β} {next : β → Job ω θ α} (first : Only allowed job)
    (second : ∀ result, Only allowed (next result)) : Only allowed (job >>= next) := by
  refine Program.only_bind first ?_
  intro outcome
  cases outcome with
  | ok result => exact second result
  | error error => exact trivial

theorem only_ite {condition : Prop} [Decidable condition] {first second : Job ω θ α}
    (yes : condition → Only allowed first) (no : ¬condition → Only allowed second) :
    Only allowed (if condition then first else second) := by
  by_cases holds : condition
  · rw [if_pos holds]
    exact yes holds
  · rw [if_neg holds]
    exact no holds

@[grind =] theorem only_op (operation : ω α) : Only allowed (op operation : Job ω θ α) ↔ allowed operation :=
  ⟨fun only => only.1, fun allow => ⟨allow, fun _ => trivial⟩⟩

@[grind =] theorem only_try (operation : ω (Except θ α)) : Only allowed (try' operation : Job ω θ α) ↔ allowed operation :=
  ⟨fun only => only.1, fun allow => ⟨allow, fun _ => trivial⟩⟩

@[grind ←] theorem only_outcome {job : Job ω θ α} (only : Only allowed job) : Only allowed (outcome job) :=
  Program.only_bind only fun _ => trivial

@[grind .] theorem only_require (condition : Bool) (refusal : θ) : Only allowed (require condition refusal : Job ω θ Unit) := by
  unfold require
  cases condition <;> exact trivial

@[grind .] theorem only_ofOption (value : Option α) (refusal : θ) : Only allowed (ofOption value refusal : Job ω θ α) := by
  cases value <;> exact trivial

@[grind ←] theorem only_mapError {job : Job ω θ α} (only : Only allowed job) : Only allowed (mapError describe job) := by
  refine only_bind (only_outcome only) ?_
  intro result
  cases result <;> exact trivial

@[grind ←] theorem only_doIf {job : Job ω θ Unit} (only : Only allowed job) : Only allowed (doIf condition job) := by
  unfold doIf
  cases condition
  · exact trivial
  · exact only

@[grind ←] theorem only_handle {result : Except θ α} {handler : θ → Job ω θ α} (only : ∀ error, Only allowed (handler error)) :
    Only allowed (handle result handler) := by
  cases result with
  | ok value => exact trivial
  | error error => exact only error

@[grind ←] theorem only_each {job : β → Job ω θ Unit} {items : List β} (only : ∀ item, Only allowed (job item)) :
    Only allowed (each job items) := by
  induction items with
  | nil => exact trivial
  | cons item rest ih => exact only_bind (only item) fun _ => ih

theorem Only.and {other : {γ : Type} → ω γ → Prop} {job : Job ω θ α} (first : Only allowed job) (second : Only other job) :
    Only (fun operation => allowed operation ∧ other operation) job :=
  Program.Only.and first second

end Job

/-! ## Contracts -/

/-- What a program assumes and what it promises. -/
structure Contract (ω : Type → Type u) (ε σ : Type) where
  /-- What the others may do to the state. -/
  rely : σ → σ → Prop
  refl : ∀ s, rely s s
  trans : ∀ s t u, rely s t → rely t u → rely s u
  /-- What the program may be told, and where. -/
  told : {β : Type} → ω β → ε → σ → Prop
  guarantee : {β : Type} → ω β → ε → σ → Prop

/-- Both contracts at once. -/
def Contract.and (first second : Contract ω ε σ) : Contract ω ε σ where
  rely s t := first.rely s t ∧ second.rely s t
  refl s := ⟨first.refl s, second.refl s⟩
  trans s t u h h' := ⟨first.trans s t u h.1 h'.1, second.trans s t u h.2 h'.2⟩
  told operation answer s := first.told operation answer s ∧ second.told operation answer s
  guarantee operation answer s := first.guarantee operation answer s ∧ second.guarantee operation answer s

/-- Gone on with from the state, which the others may change, the program performs only
    operations of the guarantee, and it ends in `post`. -/
def Program.Meets (meaning : Meaning ω ε σ) (contract : Contract ω ε σ) (post : α → σ → Prop) : Program ω α → σ → Prop
  | .done result, s => ∀ t, contract.rely s t → post result t
  | .perform operation next, s => ∀ t, contract.rely s t → meaning.ready operation t = true → ∀ answer,
    contract.told operation answer t → contract.guarantee operation answer t ∧
      (next (meaning.exec operation answer t).1).Meets meaning contract post (meaning.exec operation answer t).2

section
variable {meaning : Meaning ω ε σ} {contract : Contract ω ε σ} {post : α → σ → Prop} {s t : σ}

/-- What the others have done does not matter. -/
theorem Program.Meets.relied {program : Program ω α} (meets : program.Meets meaning contract post s)
    (changed : contract.rely s t) : program.Meets meaning contract post t := by
  cases program with
  | done result => exact fun u later => meets u (contract.trans s t u changed later)
  | perform operation next => exact fun u later => meets u (contract.trans s t u changed later)

/-- The rule of consequence. -/
theorem Program.Meets.weaken {other : α → σ → Prop} {program : Program ω α}
    (meets : program.Meets meaning contract post s) (weaker : ∀ result t, post result t → other result t) :
    program.Meets meaning contract other s := by
  induction program generalizing s with
  | done result => exact fun t changed => weaker result t (meets t changed)
  | perform operation next ih =>
    intro t changed able answer told
    obtain ⟨guaranteed, rest⟩ := meets t changed able answer told
    exact ⟨guaranteed, ih _ rest⟩

/-- The rule of sequence. -/
theorem Program.meets_bind {program : Program ω β}
    (meets : program.Meets meaning contract (fun result => (next result).Meets meaning contract post) s) :
    (program >>= next).Meets meaning contract post s := by
  induction program generalizing s with
  | done result => exact meets s (contract.refl s)
  | perform operation following ih =>
    intro t changed able answer told
    obtain ⟨guaranteed, rest⟩ := meets t changed able answer told
    exact ⟨guaranteed, ih _ rest⟩

/-- A program meets two contracts together. -/
theorem Program.Meets.and {other : Contract ω ε σ} {post' : α → σ → Prop} {program : Program ω α}
    (first : program.Meets meaning contract post s) (second : program.Meets meaning other post' s) :
    program.Meets meaning (contract.and other) (fun result t => post result t ∧ post' result t) s := by
  induction program generalizing s with
  | done result => exact fun t changed => ⟨first t changed.1, second t changed.2⟩
  | perform operation next ih =>
    intro t changed able answer told
    obtain ⟨guaranteed, rest⟩ := first t changed.1 able answer told.1
    obtain ⟨guaranteed', rest'⟩ := second t changed.2 able answer told.2
    exact ⟨⟨guaranteed, guaranteed'⟩, ih _ rest rest'⟩

/-- One step of a program that meets its contract. -/
theorem Program.Meets.advance {program : Program ω α} (meets : program.Meets meaning contract post s) {answer : ε}
    (told : ∀ {β : Type} (operation : ω β) next, program = .perform operation next → contract.told operation answer s) :
    (program.advance meaning answer s).1.Meets meaning contract post (program.advance meaning answer s).2 := by
  cases program with
  | done result => exact meets
  | perform operation next =>
    unfold Program.advance
    simp only
    by_cases able : meaning.ready operation s = true
    · rw [if_pos able]
      exact (meets s (contract.refl s) able answer (told operation next rfl)).2
    · rw [if_neg able]
      exact meets

end

/-! ## Specifications -/

/-- What holds whatever the others do. -/
structure Assertion (contract : Contract ω ε σ) where
  holds : σ → Prop
  stable : ∀ s t, contract.rely s t → holds s → holds t

namespace Assertion
variable {contract : Contract ω ε σ}

instance : CoeFun (Assertion contract) fun _ => σ → Prop := ⟨holds⟩

/-- What does not depend on the state. -/
def fact (p : Prop) : Assertion contract := ⟨fun _ => p, fun _ _ _ h => h⟩

def and (P Q : Assertion contract) : Assertion contract :=
  ⟨fun s => P s ∧ Q s, fun s t changed h => ⟨P.stable s t changed h.1, Q.stable s t changed h.2⟩⟩

end Assertion

/-- From where `P` holds, the program ends where `Q` does. -/
def Program.Spec (meaning : Meaning ω ε σ) {contract : Contract ω ε σ} (P : Assertion contract) (program : Program ω α)
    (Q : α → Assertion contract) : Prop :=
  ∀ s, P s → program.Meets meaning contract (fun result => Q result) s

theorem Program.Spec.bind {meaning : Meaning ω ε σ} {contract : Contract ω ε σ} {P : Assertion contract}
    {M : β → Assertion contract} {Q : α → Assertion contract} {program : Program ω β} (first : program.Spec meaning P M)
    (second : ∀ result, (next result).Spec meaning (M result) Q) : (program >>= next).Spec meaning P Q :=
  fun s holds => Program.meets_bind (Program.Meets.weaken (first s holds) fun result t ends => second result t ends)

theorem Program.spec_pure {meaning : Meaning ω ε σ} {contract : Contract ω ε σ} {P : Assertion contract}
    {Q : α → Assertion contract} {result : α} (ends : ∀ s, P s → Q result s) :
    (pure result : Program ω α).Spec meaning P Q :=
  fun s holds t changed => (Q result).stable s t changed (ends s holds)

theorem Program.spec_op {meaning : Meaning ω ε σ} {contract : Contract ω ε σ} {P : Assertion contract}
    {Q : α → Assertion contract} {operation : ω α} (goes : ∀ s, P s → meaning.ready operation s = true → ∀ answer,
      contract.told operation answer s → contract.guarantee operation answer s ∧
        Q (meaning.exec operation answer s).1 (meaning.exec operation answer s).2) :
    (Program.op operation).Spec meaning P Q := by
  intro s holds t changed able answer told
  obtain ⟨guaranteed, ends⟩ := goes t (P.stable s t changed holds) able answer told
  exact ⟨guaranteed, fun u later => (Q _).stable _ u later ends⟩

theorem Program.Spec.weaken {meaning : Meaning ω ε σ} {contract : Contract ω ε σ} {P P' : Assertion contract}
    {Q Q' : α → Assertion contract} {program : Program ω α} (spec : program.Spec meaning P Q) (before : ∀ s, P' s → P s)
    (ends : ∀ result s, Q result s → Q' result s) : program.Spec meaning P' Q' :=
  fun s holds => Program.Meets.weaken (spec s (before s holds)) ends

namespace Job

/-- From where `P` holds, the job ends where `Q` does, or fails where `F` does. -/
def Spec (meaning : Meaning ω ε σ) {contract : Contract ω ε σ} (P : Assertion contract) (job : Job ω θ α)
    (Q : α → Assertion contract) (F : θ → Assertion contract) : Prop :=
  Program.Spec meaning P (ExceptT.run job) fun outcome => match outcome with | .ok result => Q result | .error error => F error

variable {meaning : Meaning ω ε σ} {contract : Contract ω ε σ} {P P' : Assertion contract} {Q Q' : α → Assertion contract}
  {F F' : θ → Assertion contract} {job : Job ω θ α}

theorem Spec.weaken (spec : Spec meaning P job Q F) (before : ∀ s, P' s → P s) (ends : ∀ result s, Q result s → Q' result s)
    (fails : ∀ error s, F error s → F' error s) : Spec meaning P' job Q' F' := by
  intro s holds
  refine Program.Meets.weaken (spec s (before s holds)) ?_
  intro outcome t
  cases outcome with
  | ok result => exact ends result t
  | error error => exact fails error t

theorem Spec.before (spec : Spec meaning P job Q F) (before : ∀ s, P' s → P s) : Spec meaning P' job Q F :=
  spec.weaken before (fun _ _ h => h) fun _ _ h => h

theorem spec_pure {result : α} (ends : ∀ s, P s → Q result s) : Spec meaning P (pure result) Q F :=
  fun s holds t changed => (Q result).stable s t changed (ends s holds)

theorem spec_throw {error : θ} (fails : ∀ s, P s → F error s) : Spec meaning P (throw error) Q F :=
  fun s holds t changed => (F error).stable s t changed (fails s holds)

/-- The rule of sequence. -/
theorem Spec.bind {M : β → Assertion contract} {job : Job ω θ β} {next : β → Job ω θ α} (first : Spec meaning P job M F)
    (second : ∀ result, Spec meaning (M result) (next result) Q F) : Spec meaning P (job >>= next) Q F := by
  refine Program.Spec.bind first ?_
  intro outcome s ends
  cases outcome with
  | ok result => exact second result s ends
  | error error => exact fun t changed => (F error).stable s t changed ends

theorem spec_op {operation : ω α} (goes : ∀ s, P s → meaning.ready operation s = true → ∀ answer,
      contract.told operation answer s → contract.guarantee operation answer s ∧
        Q (meaning.exec operation answer s).1 (meaning.exec operation answer s).2) :
    Spec meaning P (op operation) Q F := by
  intro s holds t changed able answer told
  obtain ⟨guaranteed, ends⟩ := goes t (P.stable s t changed holds) able answer told
  exact ⟨guaranteed, fun u later => (Q _).stable _ u later ends⟩

theorem spec_try {operation : ω (Except θ α)} (goes : ∀ s, P s → meaning.ready operation s = true → ∀ answer,
      contract.told operation answer s → contract.guarantee operation answer s ∧
        match (meaning.exec operation answer s).1 with
        | .ok result => Q result (meaning.exec operation answer s).2
        | .error error => F error (meaning.exec operation answer s).2) :
    Spec meaning P (try' operation) Q F := by
  intro s holds t changed able answer told
  obtain ⟨guaranteed, ends⟩ := goes t (P.stable s t changed holds) able answer told
  refine ⟨guaranteed, ?_⟩
  cases reply : (meaning.exec operation answer t).1 with
  | ok result =>
    rw [reply] at ends
    exact fun u later => (Q result).stable _ u later ends
  | error error =>
    rw [reply] at ends
    exact fun u later => (F error).stable _ u later ends

theorem Spec.outcome {G : θ → Assertion contract} (spec : Spec meaning P job Q F) :
    Spec meaning P (outcome job) (fun result => match result with | .ok value => Q value | .error error => F error) G := by
  refine Program.Spec.bind spec ?_
  intro result s ends
  cases result with
  | ok value => exact fun t changed => (Q value).stable s t changed ends
  | error error => exact fun t changed => (F error).stable s t changed ends

theorem spec_ofResult {value : Except θ α} (ends : ∀ result, value = .ok result → ∀ s, P s → Q result s)
    (fails : ∀ error, value = .error error → ∀ s, P s → F error s) : Spec meaning P (ofResult value) Q F := by
  cases value with
  | ok result => exact fun s holds t changed => (Q result).stable s t changed (ends result rfl s holds)
  | error error => exact fun s holds t changed => (F error).stable s t changed (fails error rfl s holds)

theorem spec_require {refusal : θ} {Q : Unit → Assertion contract} (ends : condition = true → ∀ s, P s → Q () s)
    (fails : condition = false → ∀ s, P s → F refusal s) : Spec meaning P (require condition refusal) Q F := by
  cases condition with
  | true => exact spec_pure (ends rfl)
  | false => exact spec_throw (fails rfl)

theorem spec_ofOption {value : Option α} {refusal : θ} (ends : ∀ result, value = .some result → ∀ s, P s → Q result s)
    (fails : value = none → ∀ s, P s → F refusal s) : Spec meaning P (ofOption value refusal) Q F := by
  cases value with
  | none => exact spec_throw (fails rfl)
  | some result => exact spec_pure (ends result rfl)

theorem Spec.mapError (spec : Spec meaning P job Q F) (fails : ∀ error s, F error s → F' (describe error) s) :
    Spec meaning P (mapError describe job) Q F' := by
  refine Spec.bind (F := F') spec.outcome ?_
  intro result
  cases result with
  | ok value => exact spec_pure fun _ h => h
  | error error => exact spec_throw (fails error)

theorem spec_doIf {job : Job ω θ Unit} {Q : Unit → Assertion contract} (done : condition = true → Spec meaning P job Q F)
    (skipped : condition = false → ∀ s, P s → Q () s) : Spec meaning P (doIf condition job) Q F := by
  cases condition with
  | true => exact done rfl
  | false => exact spec_pure (skipped rfl)

theorem spec_handle {result : Except θ α} {handler : θ → Job ω θ α} (ends : ∀ value, result = .ok value → ∀ s, P s → Q value s)
    (handled : ∀ error, result = .error error → Spec meaning P (handler error) Q F) :
    Spec meaning P (handle result handler) Q F := by
  cases result with
  | ok value => exact spec_pure (ends value rfl)
  | error error => exact handled error rfl

/-! ### Jobs that keep an assertion -/

/-- However the job ends, `P` holds as it held before. -/
def Keeps (meaning : Meaning ω ε σ) {contract : Contract ω ε σ} (P : Assertion contract) (job : Job ω θ α) : Prop :=
  Spec meaning P job (fun _ => P) fun _ => P

@[grind .] theorem keeps_pure (result : α) : Keeps meaning P (pure result : Job ω θ α) := spec_pure fun _ h => h

@[grind .] theorem keeps_throw (error : θ) : Keeps meaning P (throw error : Job ω θ α) := spec_throw fun _ h => h

@[grind ←] theorem keeps_bind {job : Job ω θ β} {next : β → Job ω θ α} (first : Keeps meaning P job)
    (second : ∀ result, Keeps meaning P (next result)) : Keeps meaning P (job >>= next) := Spec.bind first second

theorem keeps_ite {condition : Prop} [Decidable condition] {first second : Job ω θ α}
    (yes : condition → Keeps meaning P first) (no : ¬condition → Keeps meaning P second) :
    Keeps meaning P (if condition then first else second) := by
  by_cases holds : condition
  · rw [if_pos holds]
    exact yes holds
  · rw [if_neg holds]
    exact no holds

@[grind ←] theorem keeps_outcome (kept : Keeps meaning P job) : Keeps meaning P (outcome job) := by
  refine Spec.weaken (Spec.outcome (G := fun _ => P) kept) (fun _ h => h) ?_ fun _ _ h => h
  intro result s ends
  cases result <;> exact ends

@[grind .] theorem keeps_ofResult (value : Except θ α) : Keeps meaning P (ofResult value) :=
  spec_ofResult (fun _ _ _ h => h) fun _ _ _ h => h

@[grind .] theorem keeps_require (condition : Bool) (refusal : θ) : Keeps meaning P (require condition refusal) :=
  spec_require (fun _ _ h => h) fun _ _ h => h

@[grind .] theorem keeps_ofOption (value : Option α) (refusal : θ) : Keeps meaning P (ofOption value refusal) :=
  spec_ofOption (fun _ _ _ h => h) fun _ _ h => h

@[grind ←] theorem keeps_mapError (kept : Keeps meaning P job) : Keeps meaning P (mapError describe job) :=
  Spec.mapError kept fun _ _ h => h

@[grind ←] theorem keeps_doIf {job : Job ω θ Unit} (kept : Keeps meaning P job) :
    Keeps meaning P (doIf condition job) := spec_doIf (fun _ => kept) fun _ _ h => h

/-- However the job ends, `P` holds. -/
theorem Keeps.run (kept : Keeps meaning P job) : Program.Spec meaning P (ExceptT.run job) fun _ => P := by
  refine Program.Spec.weaken kept (fun _ h => h) ?_
  intro outcome s ends
  cases outcome <;> exact ends

theorem keeps_each_mem {job : β → Job ω θ Unit} {items : List β} (kept : ∀ item ∈ items, Keeps meaning P (job item)) :
    Keeps meaning P (each job items) := by
  induction items with
  | nil => exact keeps_pure ()
  | cons item rest ih =>
    exact keeps_bind (kept item (List.mem_cons_self ..)) fun _ => ih fun other there => kept other (List.mem_cons_of_mem _ there)

/-- What is known of the world may be used. -/
theorem Spec.of_fact {p : Prop} (spec : p → Spec meaning P job Q F) : Spec meaning (P.and (Assertion.fact p)) job Q F :=
  fun s holds => spec holds.2 s holds.1

/-- A job that performs only operations which leave `P` alone. -/
theorem Only.spec {allowed : {γ : Type} → ω γ → Prop} (only : Only allowed job)
    (keeps : ∀ {γ : Type} (operation : ω γ), allowed operation → ∀ s, P s → meaning.ready operation s = true → ∀ answer,
      contract.told operation answer s → contract.guarantee operation answer s ∧ P (meaning.exec operation answer s).2) :
    Keeps meaning P job := by
  have program : ∀ (program : Program ω (Except θ α)), program.Only allowed →
      program.Spec meaning P fun _ => P := by
    intro program
    induction program with
    | done result => exact fun _ s holds t changed => P.stable s t changed holds
    | perform operation next ih =>
      intro only s holds t changed able answer told
      obtain ⟨guaranteed, after⟩ := keeps operation only.1 t (P.stable s t changed holds) able answer told
      exact ⟨guaranteed, ih _ (only.2 _) _ after⟩
  refine Program.Spec.weaken (program _ only) (fun _ h => h) ?_
  intro outcome t ends
  cases outcome <;> exact ends

end Job

/-! ## States that say more -/

/-- The contract on a part of the state. -/
def Contract.along {τ : Type} (contract : Contract ω ε σ) (part : τ → σ) : Contract ω ε τ where
  rely s t := contract.rely (part s) (part t)
  refl s := contract.refl (part s)
  trans _ _ _ := contract.trans _ _ _
  told operation answer s := contract.told operation answer (part s)
  guarantee operation answer s := contract.guarantee operation answer (part s)

/-- What a program meets, it meets where the operations do the same to a part of the state. -/
theorem Program.Meets.along {τ : Type} {part : τ → σ} {meaning : Meaning ω ε σ} {wider : Meaning ω ε τ}
    {contract : Contract ω ε σ} {post : α → σ → Prop} {program : Program ω α} {s : τ}
    (ready : ∀ {β : Type} (operation : ω β) t, wider.ready operation t = meaning.ready operation (part t))
    (exec : ∀ {β : Type} (operation : ω β) answer t,
      ((wider.exec operation answer t).1, part (wider.exec operation answer t).2) = meaning.exec operation answer (part t))
    (meets : program.Meets meaning contract post (part s)) :
    program.Meets wider (contract.along part) (fun result t => post result (part t)) s := by
  induction program generalizing s with
  | done result => exact fun t changed => meets (part t) changed
  | perform operation next ih =>
    intro t changed able answer told
    obtain ⟨guaranteed, rest⟩ := meets (part t) changed ((ready operation t).symm.trans able) answer told
    refine ⟨guaranteed, ih _ ?_⟩
    have same := exec operation answer t
    rw [← same] at rest
    exact rest

/-! ## Programs side by side -/

/-- Contracts of the programs, each of which has a role, that do not get in each other's way. -/
structure Discipline (ι ρ : Type) (ω : Type → Type u) (ε σ α : Type) where
  meaning : ι → Meaning ω ε σ
  contract : ι → ρ → Contract ω ε σ
  post : ι → ρ → α → σ → Prop
  apart : ∀ i j role role', i ≠ j → ∀ {β : Type} (operation : ω β) answer s, (meaning i).ready operation s = true →
    (contract i role).told operation answer s → (contract i role).guarantee operation answer s →
    (contract j role').rely s ((meaning i).exec operation answer s).2

namespace Discipline
variable {ι ρ : Type} [DecidableEq ι] (discipline : Discipline ι ρ ω ε σ α)

/-- Every program can go on from here. -/
def Kept (programs : ι → Option (ρ × Program ω α)) (s : σ) : Prop :=
  ∀ i role program, programs i = some (role, program) →
    program.Meets (discipline.meaning i) (discipline.contract i role) (discipline.post i role) s

variable {discipline} {programs : ι → Option (ρ × Program ω α)} {s t : σ} {i : ι} {role : ρ} {program : Program ω α}

omit [DecidableEq ι] in
/-- What everyone relies on may happen. -/
theorem Kept.disturb (kept : discipline.Kept programs s) (changed : ∀ j role', (discipline.contract j role').rely s t) :
    discipline.Kept programs t :=
  fun j role' program' there => (kept j role' program' there).relied (changed j role')

theorem Kept.put (kept : discipline.Kept programs s)
    (meets : program.Meets (discipline.meaning i) (discipline.contract i role) (discipline.post i role) s) :
    discipline.Kept (Function.update programs i (some (role, program))) s := by
  intro j role' program' there
  by_cases same : j = i
  · subst same
    rw [Function.update_self] at there
    cases there
    exact meets
  · rw [Function.update_of_ne same] at there
    exact kept j role' program' there

/-- A program performs an operation, which the others rely on. -/
theorem Kept.advance (kept : discipline.Kept programs s) (there : programs i = some (role, program)) {answer : ε}
    (told : ∀ {β : Type} (operation : ω β) next, program = .perform operation next →
      (discipline.contract i role).told operation answer s) :
    discipline.Kept (Function.update programs i (some (role, (program.advance (discipline.meaning i) answer s).1)))
      (program.advance (discipline.meaning i) answer s).2 := by
  have meets := kept i role program there
  intro j role' program' goes
  by_cases same : j = i
  · subst same
    rw [Function.update_self] at goes
    cases goes
    exact meets.advance told
  · rw [Function.update_of_ne same] at goes
    refine (kept j role' program' goes).relied ?_
    cases program with
    | done result => exact (discipline.contract j role').refl s
    | perform operation next =>
      unfold Program.advance
      simp only
      by_cases able : (discipline.meaning i).ready operation s = true
      · rw [if_pos able]
        obtain ⟨guaranteed, -⟩ := meets s ((discipline.contract i role).refl s) able answer (told operation next rfl)
        exact discipline.apart i j role role' (Ne.symm same) operation answer s able (told operation next rfl) guaranteed
      · rw [if_neg able]
        exact (discipline.contract j role').refl s

end Discipline
end Programs
