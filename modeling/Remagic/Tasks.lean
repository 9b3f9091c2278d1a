import Mathlib.Tactic.Common

/-!
# Tasks that act step by step

A task acts on a state one indivisible step at a time: it waits until it is ready,
is told what the world answers, may leave a label, and goes on. Whatever runs it
may stop it between any two of its steps. What stands at every such point and what
stands at the end is shown along the task, by one rule for each way to build it.
-/

namespace Tasks

inductive Task (σ ε κ α : Type) : Type where
  | done (result : α)
  | act (ready : σ → Bool) (step : ε → σ → σ) (label : ε → σ → Option κ) (next : ε → σ → Task σ ε κ α)

/-- How far a task came. -/
structure Trace (σ κ α : Type) where
  left : List κ := []
  result : Option α := none
  state : σ

variable {σ ε κ θ α β : Type}

namespace Task

def bind : Task σ ε κ α → (α → Task σ ε κ β) → Task σ ε κ β
  | .done result, next => next result
  | .act ready step label following, next =>
    .act ready step label fun answer s => (following answer s).bind next

instance : Monad (Task σ ε κ) where
  pure := .done
  bind := .bind

/-- One step that is always ready. -/
def step (run : ε → σ → α × σ) (label : ε → σ → Option κ) : Task σ ε κ α :=
  .act (fun _ => true) (fun answer s => (run answer s).2) label fun answer s => .done (run answer s).1

/-- Run the task through the given answers: it stops where they run out. -/
def run : Task σ ε κ α → List ε → σ → Trace σ κ α
  | .done result, _, s => { result := some result, state := s }
  | .act _ _ _ _, [], s => { state := s }
  | .act ready step label next, answer :: rest, s =>
    if ready s then
      let after := (next answer s).run rest (step answer s)
      { after with left := (label answer s).toList ++ after.left }
    else { state := s }

/-- Started after `log` in `s` and told only allowed answers, the task stands at every
    point where `inv` holds, and it ends where `post` holds of its result. -/
def Keeps (allowed : ε → Prop) (inv : List κ → σ → Prop) (post : α → List κ → σ → Prop) :
    Task σ ε κ α → List κ → σ → Prop
  | .done result, log, s => inv log s ∧ post result log s
  | .act ready step label next, log, s => inv log s ∧ (ready s = true → ∀ answer, allowed answer →
    (next answer s).Keeps allowed inv post (log ++ (label answer s).toList) (step answer s))

variable {allowed : ε → Prop} {inv : List κ → σ → Prop} {post : α → List κ → σ → Prop} {log : List κ} {s : σ}
  {task : Task σ ε κ α}

/-- What a task keeps holds wherever a run of it stops, and at its end. -/
theorem Keeps.sound (keeps : task.Keeps allowed inv post log s) {answers : List ε}
    (told : ∀ answer ∈ answers, allowed answer) :
    inv (log ++ (task.run answers s).left) (task.run answers s).state ∧
      ∀ result, (task.run answers s).result = some result →
        post result (log ++ (task.run answers s).left) (task.run answers s).state := by
  induction task generalizing answers log s with
  | done result =>
    obtain ⟨stands, ends⟩ := keeps
    simp only [run, List.append_nil]
    refine ⟨stands, ?_⟩
    intro outcome same
    cases same
    exact ends
  | act ready step label next ih =>
    obtain ⟨stands, goes⟩ := keeps
    cases answers with
    | nil => simpa [run] using stands
    | cons answer rest =>
      by_cases able : ready s = true
      · have later := ih answer s (goes able answer (told answer List.mem_cons_self))
          (fun other member => told other (List.mem_cons_of_mem _ member))
        simpa [run, able, List.append_assoc] using later
      · simpa [run, able] using stands

theorem Keeps.start (keeps : task.Keeps allowed inv post log s) : inv log s := by
  cases task with
  | done result => exact keeps.1
  | act ready step label next => exact keeps.1

/-- The rule of consequence. -/
theorem Keeps.weaken {weaker : List κ → σ → Prop} {other : α → List κ → σ → Prop}
    (keeps : task.Keeps allowed inv post log s) (stands : ∀ log s, inv log s → weaker log s)
    (ends : ∀ result log s, inv log s → post result log s → other result log s) :
    task.Keeps allowed weaker other log s := by
  induction task generalizing log s with
  | done result => exact ⟨stands log s keeps.1, ends result log s keeps.1 keeps.2⟩
  | act ready step label next ih =>
    refine ⟨stands log s keeps.1, ?_⟩
    intro able answer may
    exact ih answer s (keeps.2 able answer may)

/-- The rule of sequence. -/
theorem keeps_bind {task : Task σ ε κ β} {next : β → Task σ ε κ α}
    (keeps : task.Keeps allowed inv (fun result => (next result).Keeps allowed inv post) log s) :
    (task >>= next).Keeps allowed inv post log s := by
  induction task generalizing log s with
  | done result => exact keeps.2
  | act ready step label following ih =>
    refine ⟨keeps.1, ?_⟩
    intro able answer may
    exact ih answer s (keeps.2 able answer may)

/-- Any task keeps what asks for nothing. -/
theorem keeps_nothing (task : Task σ ε κ α) : task.Keeps allowed (fun _ _ => True) (fun _ _ _ => True) log s := by
  induction task generalizing log s with
  | done result => exact ⟨trivial, trivial⟩
  | act ready step label next ih => exact ⟨trivial, fun _ answer _ => ih answer s⟩

theorem keeps_step {run : ε → σ → α × σ} {label : ε → σ → Option κ} (stands : inv log s)
    (ends : ∀ answer, allowed answer → inv (log ++ (label answer s).toList) (run answer s).2 ∧
      post (run answer s).1 (log ++ (label answer s).toList) (run answer s).2) :
    (Task.step run label).Keeps allowed inv post log s :=
  ⟨stands, fun _ answer may => ends answer may⟩

end Task

/-! ## Tasks that may fail -/

/-- A task that ends with a result or with an error. -/
abbrev Job (σ ε κ θ α : Type) := ExceptT θ (Task σ ε κ) α

namespace Job

/-- A job keeps what its task keeps: `fail` where it ends with an error. -/
def Keeps (allowed : ε → Prop) (inv : List κ → σ → Prop) (fail : θ → List κ → σ → Prop)
    (post : α → List κ → σ → Prop) (job : Job σ ε κ θ α) (log : List κ) (s : σ) : Prop :=
  Task.Keeps allowed inv (fun outcome => match outcome with | .ok result => post result | .error error => fail error)
    (ExceptT.run job) log s

/-- Run the job through the given answers. -/
def trace (job : Job σ ε κ θ α) (answers : List ε) (s : σ) : Trace σ κ (Except θ α) := (ExceptT.run job).run answers s

variable {allowed : ε → Prop} {inv : List κ → σ → Prop} {fail : θ → List κ → σ → Prop}
  {post : α → List κ → σ → Prop} {log : List κ} {s : σ}

section
variable {job : Job σ ε κ θ α} {answers : List ε}

/-- What a job keeps holds wherever a run of it stops. -/
theorem Keeps.stands (keeps : Keeps allowed inv fail post job log s) (told : ∀ answer ∈ answers, allowed answer) :
    inv (log ++ (trace job answers s).left) (trace job answers s).state :=
  (Task.Keeps.sound keeps told).1

theorem Keeps.ends (keeps : Keeps allowed inv fail post job log s) (told : ∀ answer ∈ answers, allowed answer)
    {result : α} (finished : (trace job answers s).result = some (.ok result)) :
    post result (log ++ (trace job answers s).left) (trace job answers s).state :=
  (Task.Keeps.sound keeps told).2 (.ok result) finished

theorem Keeps.fails (keeps : Keeps allowed inv fail post job log s) (told : ∀ answer ∈ answers, allowed answer)
    {error : θ} (failed : (trace job answers s).result = some (.error error)) :
    fail error (log ++ (trace job answers s).left) (trace job answers s).state :=
  (Task.Keeps.sound keeps told).2 (.error error) failed

end

theorem Keeps.start {job : Job σ ε κ θ α} (keeps : Keeps allowed inv fail post job log s) : inv log s :=
  Task.Keeps.start keeps

theorem Keeps.weaken {weaker : List κ → σ → Prop} {failed : θ → List κ → σ → Prop} {other : α → List κ → σ → Prop}
    {job : Job σ ε κ θ α} (keeps : Keeps allowed inv fail post job log s) (stands : ∀ log s, inv log s → weaker log s)
    (fails : ∀ error log s, inv log s → fail error log s → failed error log s)
    (ends : ∀ result log s, inv log s → post result log s → other result log s) :
    Keeps allowed weaker failed other job log s := by
  refine Task.Keeps.weaken keeps stands ?_
  intro outcome log s
  cases outcome with
  | ok result => exact ends result log s
  | error error => exact fails error log s

theorem keeps_pure {result : α} (stands : inv log s) (ends : post result log s) :
    Keeps allowed inv fail post (pure result) log s := ⟨stands, ends⟩

theorem keeps_throw {error : θ} (stands : inv log s) (fails : fail error log s) :
    Keeps allowed inv fail post (throw error) log s := ⟨stands, fails⟩

theorem keeps_nothing (job : Job σ ε κ θ α) :
    Keeps allowed (fun _ _ => True) (fun _ _ _ => True) (fun _ _ _ => True) job log s :=
  Task.Keeps.weaken (Task.keeps_nothing job.run) (fun _ _ stands => stands) fun outcome _ _ _ _ =>
    match outcome with
    | .ok _ => trivial
    | .error _ => trivial

/-- The rule of sequence: what follows starts where the first job ends. -/
theorem keeps_bind {M : β → List κ → σ → Prop} {job : Job σ ε κ θ β} {next : β → Job σ ε κ θ α}
    (first : Keeps allowed inv fail M job log s)
    (second : ∀ result log s, inv log s → M result log s → Keeps allowed inv fail post (next result) log s) :
    Keeps allowed inv fail post (job >>= next) log s := by
  refine Task.keeps_bind (Task.Keeps.weaken first (fun _ _ stands => stands) ?_)
  intro outcome log s stands ends
  cases outcome with
  | ok result => exact second result log s stands ends
  | error error => exact ⟨stands, ends⟩

/-- A check that throws, and what follows it. -/
theorem keeps_guard {condition : Prop} [Decidable condition] {error : θ} {next : Job σ ε κ θ α} (stands : inv log s)
    (wrong : condition → fail error log s) (rest : ¬ condition → Keeps allowed inv fail post next log s) :
    Keeps allowed inv fail post (do
      if condition then throw error
      next) log s := by
  by_cases holds : condition
  · rw [if_pos holds]
    exact keeps_throw stands (wrong holds)
  · rw [if_neg holds]
    exact rest holds

/-- Do the job on each item in turn. -/
def each (job : β → Job σ ε κ θ Unit) : List β → Job σ ε κ θ Unit
  | [] => pure ()
  | item :: rest => do
    job item
    each job rest

/-- The rule of iteration: `R` says where the job stands with the items that are left. -/
theorem keeps_each {job : β → Job σ ε κ θ Unit} {R : List β → List κ → σ → Prop} {items : List β}
    (stands : ∀ rest log s, R rest log s → inv log s)
    (one : ∀ item rest log s, item ∈ items → R (item :: rest) log s →
      Keeps allowed inv fail (fun _ => R rest) (job item) log s)
    (starts : R items log s) : Keeps allowed inv fail (fun _ => R []) (each job items) log s := by
  induction items generalizing log s with
  | nil => exact keeps_pure (stands [] log s starts) starts
  | cons item rest ih =>
    refine keeps_bind (one item rest log s List.mem_cons_self starts) ?_
    intro _ log s _ left
    exact ih (fun other remaining log s member => one other remaining log s (List.mem_cons_of_mem _ member)) left

/-- Whatever the job ends with, go on. -/
def outcome (job : Job σ ε κ θ α) : Job σ ε κ θ (Except θ α) := ExceptT.mk do
  let result ← job.run
  pure (.ok result)

theorem keeps_outcome {post : Except θ α → List κ → σ → Prop} {job : Job σ ε κ θ α}
    (keeps : Keeps allowed inv (fun error => post (.error error)) (fun result => post (.ok result)) job log s) :
    Keeps allowed inv fail post (outcome job) log s := by
  refine Task.keeps_bind (Task.Keeps.weaken keeps (fun _ _ stands => stands) ?_)
  intro result log s stands ends
  cases result with
  | ok result => exact ⟨stands, ends⟩
  | error error => exact ⟨stands, ends⟩

end Job
end Tasks
