import Remagic.Tasks

/-!
# What a part of a task is told

A task may do another one somewhere within it. A run of the task makes the part suffer if
an answer that it tells this part is a bad one. What stands at the end of the runs in which
the part is spared is shown along the task, by the rules of `Task.Keeps` wherever the part
is not done.
-/

namespace Tasks

variable {σ ε κ θ α β γ : Type} {post : α → σ → Prop} {answers : List ε}

namespace Task

theorem bind_assoc (task : Task σ ε κ γ) (first : γ → Task σ ε κ β) (second : β → Task σ ε κ α) :
    (task.bind first).bind second = task.bind fun result => (first result).bind second := by
  induction task with
  | done result => rfl
  | act ready step label following ih =>
    simp only [bind]
    congr 1
    funext answer s
    exact ih answer s

theorem bind_done (task : Task σ ε κ α) : task.bind .done = task := by
  induction task with
  | done result => rfl
  | act ready step label following ih =>
    simp only [bind]
    congr 1
    funext answer s
    exact ih answer s

/-- How many of the answers the task is told. -/
def calls : Task σ ε κ α → List ε → σ → Nat
  | .done _, _, _ => 0
  | .act _ _ _ _, [], _ => 0
  | .act ready step _ next, answer :: rest, s => if ready s then (next answer s).calls rest (step answer s) + 1 else 0

/-- The answers that the task is told decide its run. -/
theorem run_told (task : Task σ ε κ α) (answers : List ε) (s : σ)
    {result : α} (ended : (task.run answers s).result = some result) :
    task.run (answers.take (task.calls answers s)) s = task.run answers s := by
  induction task generalizing answers s with
  | done result => rfl
  | act ready step label next ih =>
    cases answers with
    | nil => rfl
    | cons answer rest =>
      by_cases able : ready s = true
      · simp only [run, able, if_true] at ended
        simp only [calls, run, able, if_true, List.take_succ_cons, ih answer s rest (step answer s) ended]
      · simp [run, able] at ended

variable {task : Task σ ε κ β} {next : β → Task σ ε κ α}

/-- A run of a sequence: where the first task does not end, nothing follows it. -/
theorem run_bind {s : σ} {outcome : α} (ended : ((task >>= next).run answers s).result = some outcome) :
    ∃ result, (task.run answers s).result = some result ∧
      ((next result).run (answers.drop (task.calls answers s)) (task.run answers s).state).result = some outcome ∧
      ((next result).run (answers.drop (task.calls answers s)) (task.run answers s).state).state =
        ((task >>= next).run answers s).state := by
  induction task generalizing answers s with
  | done result => exact ⟨result, rfl, ended, rfl⟩
  | act ready step label following ih =>
    cases answers with
    | nil => cases ended
    | cons answer rest =>
      by_cases able : ready s = true
      · have goes : ((following answer s >>= next).run rest (step answer s)).result = some outcome := by
          simpa [Bind.bind, bind, run, able] using ended
        obtain ⟨result, first, second, same⟩ := ih answer s goes
        refine ⟨result, ?_, ?_, ?_⟩
        · simpa [run, able] using first
        · simpa [run, calls, able] using second
        · simpa [run, calls, able, Bind.bind, bind] using same
      · simp [Bind.bind, bind, run, able] at ended

/-- A run of the task does the part somewhere, and tells it a bad answer. -/
inductive Suffers (part : Task σ ε κ β) (bad : ε → Prop) : Task σ ε κ α → List ε → σ → Prop
  | here (next : β → Task σ ε κ α) {answers : List ε} {s : σ} (answer : ε)
      (told : answer ∈ answers.take (part.calls answers s)) (hurts : bad answer) :
      Suffers part bad (part.bind next) answers s
  | later {ready : σ → Bool} {step : ε → σ → σ} {label : ε → σ → Option κ} {next : ε → σ → Task σ ε κ α} {answer : ε}
      {rest : List ε} {s : σ} (able : ready s = true) (suffers : Suffers part bad (next answer s) rest (step answer s)) :
      Suffers part bad (.act ready step label next) (answer :: rest) s

section
variable {part : Task σ ε κ γ} {bad : ε → Prop}

theorem Suffers.bind {s : σ} (suffers : Suffers part bad task answers s) (next : β → Task σ ε κ α) :
    Suffers part bad (task >>= next) answers s := by
  induction suffers with
  | here following answer told hurts =>
    show Suffers part bad ((part.bind following).bind next) _ _
    rw [bind_assoc]
    exact .here _ answer told hurts
  | later able _ ih => exact .later able ih

theorem Suffers.after {s : σ} {result : β} (ended : (task.run answers s).result = some result)
    (suffers : Suffers part bad (next result) (answers.drop (task.calls answers s)) (task.run answers s).state) :
    Suffers part bad (task >>= next) answers s := by
  induction task generalizing answers s with
  | done outcome =>
    cases ended
    exact suffers
  | act ready step label following ih =>
    cases answers with
    | nil => cases ended
    | cons answer rest =>
      by_cases able : ready s = true
      · refine .later able (ih answer s ?_ ?_)
        · simpa [run, able] using ended
        · simpa [run, calls, able] using suffers
      · simp [run, able] at ended

end

/-- Started in `s` and told only allowed answers, the task ends where `post` holds of its
    result, unless the part is told a bad one. -/
def Spares (part : Task σ ε κ γ) (bad allowed : ε → Prop) (post : α → σ → Prop) (task : Task σ ε κ α) (s : σ) : Prop :=
  ∀ answers, (∀ answer ∈ answers, allowed answer) → ¬ Suffers part bad task answers s → ∀ result,
    (task.run answers s).result = some result → post result (task.run answers s).state

variable {part : Task σ ε κ γ} {bad allowed : ε → Prop} {I : List κ → σ → Prop} {s : σ}

theorem Keeps.spares {task : Task σ ε κ α} (keeps : task.Keeps allowed I (fun result _ => post result) [] s) :
    Spares part bad allowed post task s :=
  fun _ told _ result ended => (keeps.sound told).2 result ended

/-- The rule of consequence. -/
theorem Spares.weaken {post other : α → σ → Prop} {task : Task σ ε κ α} (spares : Spares part bad allowed post task s)
    (ends : ∀ result s, post result s → other result s) : Spares part bad allowed other task s :=
  fun answers told spared result ended => ends result _ (spares answers told spared result ended)

theorem Spares.and {post other : α → σ → Prop} {task : Task σ ε κ α} (spares : Spares part bad allowed post task s)
    (beside : Spares part bad allowed other task s) :
    Spares part bad allowed (fun result s => post result s ∧ other result s) task s :=
  fun answers told spared result ended => ⟨spares answers told spared result ended, beside answers told spared result ended⟩

/-- The rule of sequence. -/
theorem spares_bind (first : Spares part bad allowed (fun result => Spares part bad allowed post (next result)) task s) :
    Spares part bad allowed post (task >>= next) s := by
  intro answers told spared outcome ended
  obtain ⟨result, finished, goes, same⟩ := run_bind ended
  rw [← same]
  refine first answers told (fun suffers => spared (suffers.bind next)) result finished
    (answers.drop (task.calls answers s)) ?_ (fun suffers => spared (.after finished suffers)) outcome goes
  exact fun answer member => told answer (List.mem_of_mem_drop member)

/-- The part itself is told good answers only. -/
theorem spares_part {post : γ → σ → Prop}
    (keeps : part.Keeps (fun answer => allowed answer ∧ ¬ bad answer) I (fun result _ => post result) [] s) :
    Spares part bad allowed post part s := by
  intro answers told spared result ended
  have good : ∀ answer ∈ answers.take (part.calls answers s), allowed answer ∧ ¬ bad answer := by
    intro answer member
    refine ⟨told answer (List.mem_of_mem_take member), fun hurts => spared ?_⟩
    have suffers : Suffers part bad (part.bind .done) answers s := .here .done answer member hurts
    rwa [bind_done] at suffers
  have sound := (keeps.sound good).2
  rw [run_told part answers s ended] at sound
  exact sound result ended

end Task

namespace Job
variable {part : Job σ ε κ θ γ} {bad allowed : ε → Prop} {I : List κ → σ → Prop} {fail : θ → σ → Prop} {s : σ}
  {job : Job σ ε κ θ α}

/-- A run of the job does the part somewhere, and tells it a bad answer. -/
def Suffers (part : Job σ ε κ θ γ) (bad : ε → Prop) (job : Job σ ε κ θ α) (answers : List ε) (s : σ) : Prop :=
  Task.Suffers (ExceptT.run part) bad (ExceptT.run job) answers s

/-- A job spares what its task spares: `fail` holds where it ends with an error. -/
def Spares (part : Job σ ε κ θ γ) (bad allowed : ε → Prop) (fail : θ → σ → Prop) (post : α → σ → Prop)
    (job : Job σ ε κ θ α) (s : σ) : Prop :=
  Task.Spares (ExceptT.run part) bad allowed
    (fun outcome => match outcome with | .ok result => post result | .error error => fail error) (ExceptT.run job) s

theorem Spares.fails (spares : Spares part bad allowed fail post job s) (told : ∀ answer ∈ answers, allowed answer)
    (spared : ¬ Suffers part bad job answers s) {error : θ}
    (failed : (trace job answers s).result = some (.error error)) : fail error (trace job answers s).state :=
  spares answers told spared (.error error) failed

theorem Keeps.spares (keeps : Keeps allowed I (fun error _ => fail error) (fun result _ => post result) job [] s) :
    Spares part bad allowed fail post job s := by
  refine Task.Keeps.spares (Task.Keeps.weaken keeps (fun _ _ stands => stands) ?_)
  intro outcome _ s _
  cases outcome <;> exact id

theorem Spares.weaken {failed : θ → σ → Prop} {post other : α → σ → Prop}
    (spares : Spares part bad allowed fail post job s) (fails : ∀ error s, fail error s → failed error s)
    (ends : ∀ result s, post result s → other result s) : Spares part bad allowed failed other job s := by
  refine Task.Spares.weaken spares ?_
  intro outcome s
  cases outcome with
  | ok result => exact ends result s
  | error error => exact fails error s

theorem Spares.and {failed : θ → σ → Prop} {post other : α → σ → Prop} (spares : Spares part bad allowed fail post job s)
    (beside : Spares part bad allowed failed other job s) :
    Spares part bad allowed (fun error s => fail error s ∧ failed error s) (fun result s => post result s ∧ other result s)
      job s := by
  refine Task.Spares.weaken (Task.Spares.and spares beside) ?_
  intro outcome s
  cases outcome <;> exact id

theorem spares_pure {result : α} (ends : post result s) : Spares part bad allowed fail post (pure result) s := by
  intro answers _ _ outcome ended
  cases ended
  exact ends

theorem spares_throw {error : θ} (fails : fail error s) : Spares part bad allowed fail post (throw error) s := by
  intro answers _ _ outcome ended
  cases ended
  exact fails

theorem spares_bind {M : β → σ → Prop} {job : Job σ ε κ θ β} {next : β → Job σ ε κ θ α}
    (first : Spares part bad allowed fail M job s)
    (second : ∀ result s, M result s → Spares part bad allowed fail post (next result) s) :
    Spares part bad allowed fail post (job >>= next) s := by
  refine Task.spares_bind (Task.Spares.weaken first ?_)
  intro outcome s ends
  cases outcome with
  | ok result => exact second result s ends
  | error error =>
    intro answers _ _ outcome ended
    cases ended
    exact ends

theorem spares_outcome {post : Except θ α → σ → Prop}
    (spares : Spares part bad allowed (fun error => post (.error error)) (fun result => post (.ok result)) job s) :
    Spares part bad allowed fail post (outcome job) s := by
  refine Task.spares_bind (Task.Spares.weaken spares ?_)
  intro result s ends answers _ _ outcome ended
  cases ended
  cases result <;> exact ends

theorem spares_part {post : γ → σ → Prop}
    (keeps : Keeps (fun answer => allowed answer ∧ ¬ bad answer) I (fun error _ => fail error) (fun result _ => post result)
      part [] s) : Spares part bad allowed fail post part s := by
  refine Task.spares_part (I := I) (Task.Keeps.weaken keeps (fun _ _ stands => stands) ?_)
  intro outcome _ s _
  cases outcome <;> exact id

end Job
end Tasks
