import Remagic.Tasks

/-!
# Promised labels and undisturbed runs

What a task does may depend on promises about the steps that leave a label: as long as
every label that it has left is as promised, an invariant stands wherever it stops. A
task that is told one answer at every step, and is never made to wait, comes to its end.
-/

namespace Tasks

variable {σ ε κ θ α β : Type} {other : α → σ → Prop}

namespace Task

/-- Started in `s`, the task stands at every point where `inv` holds, and it ends where
    `post` holds of its result, as long as its labels are `good`. -/
def Holds (good : κ → Prop) (inv : σ → Prop) (post : α → σ → Prop) : Task σ ε κ α → σ → Prop
  | .done result, s => inv s ∧ post result s
  | .act ready step label next, s => inv s ∧ (ready s = true → ∀ answer,
    (∀ left, label answer s = some left → good left) → (next answer s).Holds good inv post (step answer s))

variable {good : κ → Prop} {inv : σ → Prop} {post : α → σ → Prop} {s : σ} {task : Task σ ε κ α}

/-- What a task holds to is so wherever a run of it stops, and at its end. -/
theorem Holds.sound (holds : task.Holds good inv post s) {answers : List ε}
    (promised : ∀ left ∈ (task.run answers s).left, good left) :
    inv (task.run answers s).state ∧
      ∀ result, (task.run answers s).result = some result → post result (task.run answers s).state := by
  induction task generalizing answers s with
  | done result =>
    obtain ⟨stands, ends⟩ := holds
    refine ⟨stands, ?_⟩
    intro outcome same
    cases same
    exact ends
  | act ready step label next ih =>
    obtain ⟨stands, goes⟩ := holds
    cases answers with
    | nil => simpa [run] using stands
    | cons answer rest =>
      by_cases able : ready s = true
      · simp only [run, able, if_true] at promised ⊢
        have first : ∀ left, label answer s = some left → good left := by
          intro left same
          exact promised left (List.mem_append_left _ (by simp [same]))
        exact ih answer s (goes able answer first) fun left member => promised left (List.mem_append_right _ member)
      · simpa [run, able] using stands

theorem Holds.start (holds : task.Holds good inv post s) : inv s := by
  cases task with
  | done result => exact holds.1
  | act ready step label next => exact holds.1

/-- The rule of consequence. -/
theorem Holds.weaken {weaker : σ → Prop} (holds : task.Holds good inv post s) (stands : ∀ s, inv s → weaker s)
    (ends : ∀ result s, inv s → post result s → other result s) : task.Holds good weaker other s := by
  induction task generalizing s with
  | done result => exact ⟨stands s holds.1, ends result s holds.1 holds.2⟩
  | act ready step label next ih =>
    refine ⟨stands s holds.1, ?_⟩
    intro able answer promised
    exact ih answer s (holds.2 able answer promised)

/-- The rule of sequence. -/
theorem holds_bind {task : Task σ ε κ β} {next : β → Task σ ε κ α}
    (holds : task.Holds good inv (fun result => (next result).Holds good inv post) s) :
    (task >>= next).Holds good inv post s := by
  induction task generalizing s with
  | done result => exact holds.2
  | act ready step label following ih =>
    refine ⟨holds.1, ?_⟩
    intro able answer promised
    exact ih answer s (holds.2 able answer promised)

theorem holds_step {run : ε → σ → α × σ} {label : ε → σ → Option κ} (stands : inv s)
    (ends : ∀ answer, (∀ left, label answer s = some left → good left) →
      inv (run answer s).2 ∧ post (run answer s).1 (run answer s).2) : (Task.step run label).Holds good inv post s :=
  ⟨stands, fun _ answer promised => ends answer promised⟩

/-- Told `calm` at every step, the task never waits and ends where `post` holds of its result. -/
def Ends (calm : ε) (post : α → σ → Prop) : Task σ ε κ α → σ → Prop
  | .done result, s => post result s
  | .act ready step _ next, s => ready s = true ∧ (next calm s).Ends calm post (step calm s)

variable {calm : ε}

/-- A run that has answers enough comes to the end. -/
theorem Ends.sound (ends : task.Ends calm post s) :
    ∃ count result, ∀ more, (task.run (List.replicate (count + more) calm) s).result = some result ∧
      post result (task.run (List.replicate (count + more) calm) s).state := by
  induction task generalizing s with
  | done result => exact ⟨0, result, fun _ => ⟨rfl, ends⟩⟩
  | act ready step label next ih =>
    obtain ⟨able, later⟩ := ends
    obtain ⟨count, result, finished⟩ := ih calm s later
    refine ⟨count + 1, result, fun more => ?_⟩
    rw [Nat.add_right_comm, List.replicate_succ]
    simpa [run, able] using finished more

theorem Ends.weaken (ends : task.Ends calm post s) (finish : ∀ result s, post result s → other result s) :
    task.Ends calm other s := by
  induction task generalizing s with
  | done result => exact finish result s ends
  | act ready step label next ih => exact ⟨ends.1, ih calm _ ends.2⟩

theorem ends_bind {task : Task σ ε κ β} {next : β → Task σ ε κ α}
    (ends : task.Ends calm (fun result => (next result).Ends calm post) s) : (task >>= next).Ends calm post s := by
  induction task generalizing s with
  | done result => exact ends
  | act ready step label following ih => exact ⟨ends.1, ih calm _ ends.2⟩

theorem ends_step {run : ε → σ → α × σ} {label : ε → σ → Option κ} (ends : post (run calm s).1 (run calm s).2) :
    (Task.step run label).Ends calm post s := ⟨rfl, ends⟩

end Task

namespace Job

/-- A job holds to what its task holds to: `fail` where it ends with an error. -/
def Holds (good : κ → Prop) (inv : σ → Prop) (fail : θ → σ → Prop) (post : α → σ → Prop) (job : Job σ ε κ θ α)
    (s : σ) : Prop :=
  Task.Holds good inv (fun outcome => match outcome with | .ok result => post result | .error error => fail error)
    (ExceptT.run job) s

variable {good : κ → Prop} {inv : σ → Prop} {fail : θ → σ → Prop} {post : α → σ → Prop} {s : σ}

section
variable {job : Job σ ε κ θ α} {answers : List ε}

theorem Holds.stands (holds : Holds good inv fail post job s) (promised : ∀ left ∈ (trace job answers s).left, good left) :
    inv (trace job answers s).state :=
  (Task.Holds.sound holds promised).1

theorem Holds.ends (holds : Holds good inv fail post job s) (promised : ∀ left ∈ (trace job answers s).left, good left)
    {result : α} (finished : (trace job answers s).result = some (.ok result)) : post result (trace job answers s).state :=
  (Task.Holds.sound holds promised).2 (.ok result) finished

theorem Holds.start (holds : Holds good inv fail post job s) : inv s := Task.Holds.start holds

theorem Holds.weaken {weaker : σ → Prop} {failed : θ → σ → Prop} (holds : Holds good inv fail post job s)
    (stands : ∀ s, inv s → weaker s) (fails : ∀ error s, inv s → fail error s → failed error s)
    (ends : ∀ result s, inv s → post result s → other result s) : Holds good weaker failed other job s := by
  refine Task.Holds.weaken holds stands ?_
  intro outcome s
  cases outcome with
  | ok result => exact ends result s
  | error error => exact fails error s

end

theorem holds_pure {result : α} (stands : inv s) (ends : post result s) :
    Holds good inv fail post (pure result : Job σ ε κ θ α) s := ⟨stands, ends⟩

theorem holds_throw {error : θ} (stands : inv s) (fails : fail error s) :
    Holds good inv fail post (throw error : Job σ ε κ θ α) s := ⟨stands, fails⟩

/-- The rule of sequence: what follows starts where the first job ends. -/
theorem holds_bind {M : β → σ → Prop} {job : Job σ ε κ θ β} {next : β → Job σ ε κ θ α}
    (first : Holds good inv fail M job s)
    (second : ∀ result s, inv s → M result s → Holds good inv fail post (next result) s) :
    Holds good inv fail post (job >>= next) s := by
  refine Task.holds_bind (Task.Holds.weaken first (fun _ stands => stands) ?_)
  intro outcome s stands ends
  cases outcome with
  | ok result => exact second result s stands ends
  | error error => exact ⟨stands, ends⟩

/-- A check that throws, and what follows it. -/
theorem holds_guard {condition : Prop} [Decidable condition] {error : θ} {next : Job σ ε κ θ α} (stands : inv s)
    (wrong : condition → fail error s) (rest : ¬ condition → Holds good inv fail post next s) :
    Holds good inv fail post (do
      if condition then throw error
      next) s := by
  by_cases holds : condition
  · rw [if_pos holds]
    exact holds_throw stands (wrong holds)
  · rw [if_neg holds]
    exact rest holds

theorem holds_outcome {post : Except θ α → σ → Prop} {job : Job σ ε κ θ α}
    (holds : Holds good inv (fun error => post (.error error)) (fun result => post (.ok result)) job s) :
    Holds good inv fail post (outcome job) s := by
  refine Task.holds_bind (Task.Holds.weaken holds (fun _ stands => stands) ?_)
  intro result s stands ends
  cases result with
  | ok result => exact ⟨stands, ends⟩
  | error error => exact ⟨stands, ends⟩

/-- An undisturbed job ends as its task does. -/
def Ends (calm : ε) (post : Except θ α → σ → Prop) (job : Job σ ε κ θ α) (s : σ) : Prop :=
  Task.Ends calm post (ExceptT.run job) s

section
variable {calm : ε} {post : Except θ α → σ → Prop} {s : σ}

theorem Ends.sound {job : Job σ ε κ θ α} (ends : Ends calm post job s) :
    ∃ count result, ∀ more, (trace job (List.replicate (count + more) calm) s).result = some result ∧
      post result (trace job (List.replicate (count + more) calm) s).state :=
  Task.Ends.sound ends

theorem Ends.weaken {other : Except θ α → σ → Prop} {job : Job σ ε κ θ α} (ends : Ends calm post job s)
    (finish : ∀ result s, post result s → other result s) : Ends calm other job s :=
  Task.Ends.weaken ends finish

theorem ends_pure {result : α} (ends : post (.ok result) s) : Ends calm post (pure result : Job σ ε κ θ α) s := ends

/-- The rule of sequence. -/
theorem ends_bind {job : Job σ ε κ θ β} {next : β → Job σ ε κ θ α}
    (first : Ends calm (fun outcome s => match outcome with
      | .ok result => Ends calm post (next result) s
      | .error error => post (.error error) s) job s) : Ends calm post (job >>= next) s := by
  refine Task.ends_bind (Task.Ends.weaken first ?_)
  intro outcome s ends
  cases outcome with
  | ok result => exact ends
  | error error => exact ends

theorem ends_outcome {post : Except θ (Except θ α) → σ → Prop} {job : Job σ ε κ θ α}
    (ends : Ends calm (fun result => post (.ok result)) job s) : Ends calm post (outcome job) s :=
  Task.ends_bind (Task.Ends.weaken ends fun _ _ stands => stands)

end

end Job
end Tasks
