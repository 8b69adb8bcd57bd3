import WhatsGoingOn.Library.Run
import WhatsGoingOn.Library.Text

/-!
# Tasks over a shared state

A program whose tasks run interleaved: each step is one task acting once on
the shared state, a task starting, or the surroundings changing the shared
state.  A task keeps what it knows in a state of its own, so that its steps
are exactly its accesses to what is shared.
-/

namespace WhatsGoingOn

variable {σ τ ρ ι χ : Type}

/-- How tasks start, act, and are disturbed.  The input of an action is what
the task learns from outside the shared state. -/
structure TaskSystem (σ τ ρ ι χ : Type) where
  launch : σ → ρ → Option τ
  advance : σ → τ → ι → Option (σ × τ)
  disturb : σ → χ → Option σ

/-- The shared state and the tasks started so far. -/
structure TaskState (σ τ : Type) where
  shared : σ
  tasks : List τ

/-- One step of a task system. -/
inductive TaskEvent (ρ ι χ : Type) where
  | launch (request : ρ)
  | advance (index : Nat) (input : ι)
  | disturb (cause : χ)

namespace TaskSystem

/-- One event: a task is launched, a task advances, or something else changes
what the tasks share. -/
def step (system : TaskSystem σ τ ρ ι χ) (state : TaskState σ τ) :
    TaskEvent ρ ι χ → Option (TaskState σ τ)
  | .launch request =>
      (system.launch state.shared request).map fun task =>
        { state with tasks := state.tasks ++ [task] }
  | .advance index input =>
      state.tasks[index]?.bind fun task =>
        (system.advance state.shared task input).map fun result =>
          ⟨result.1, state.tasks.set index result.2⟩
  | .disturb cause =>
      (system.disturb state.shared cause).map fun shared =>
        { state with shared := shared }

section Step

variable {system : TaskSystem σ τ ρ ι χ} {state next : TaskState σ τ}

theorem step_launch_eq_some {request : ρ} :
    system.step state (.launch request) = some next ↔
      ∃ task, system.launch state.shared request = some task ∧
        next = ⟨state.shared, state.tasks ++ [task]⟩ := by
  simp only [step, Option.map_eq_some_iff]
  exact exists_congr fun task => and_congr_right fun _ => eq_comm

theorem step_advance_eq_some {index : Nat} {input : ι} :
    system.step state (.advance index input) = some next ↔
      ∃ task shared after, state.tasks[index]? = some task ∧
        system.advance state.shared task input = some (shared, after) ∧
        next = ⟨shared, state.tasks.set index after⟩ := by
  simp only [step, Option.bind_eq_some_iff, Option.map_eq_some_iff]
  constructor
  · rintro ⟨task, found, ⟨shared, after⟩, acted, rfl⟩
    exact ⟨task, shared, after, found, acted, rfl⟩
  · rintro ⟨task, shared, after, found, acted, rfl⟩
    exact ⟨task, found, (shared, after), acted, rfl⟩

theorem step_disturb_eq_some {cause : χ} :
    system.step state (.disturb cause) = some next ↔
      ∃ shared, system.disturb state.shared cause = some shared ∧
        next = ⟨shared, state.tasks⟩ := by
  simp only [step, Option.map_eq_some_iff]
  exact exists_congr fun shared => and_congr_right fun _ => eq_comm

/-- The tasks after one of them has acted. -/
theorem getElem?_set_cases
    {tasks : List τ} {index other : Nat} {after found : τ}
    (lookup : (tasks.set index after)[other]? = some found) :
    (other = index ∧ found = after) ∨
      (other ≠ index ∧ tasks[other]? = some found) := by
  rw [List.getElem?_set] at lookup
  split at lookup
  · rename_i same
    split at lookup
    · cases lookup
      exact Or.inl ⟨same.symm, rfl⟩
    · cases lookup
  · rename_i different
    exact Or.inr ⟨fun same => different same.symm, lookup⟩

/-- The tasks after one has started. -/
theorem getElem?_concat_cases
    {tasks : List τ} {other : Nat} {started found : τ}
    (lookup : (tasks ++ [started])[other]? = some found) :
    (other = tasks.length ∧ found = started) ∨
      (other < tasks.length ∧ tasks[other]? = some found) := by
  rcases Nat.lt_or_ge other tasks.length with inside | outside
  · rw [List.getElem?_append_left inside] at lookup
    exact Or.inr ⟨inside, lookup⟩
  · rw [List.getElem?_append_right outside] at lookup
    obtain ⟨inside, value⟩ := List.getElem?_eq_some_iff.mp lookup
    have position : other - tasks.length < 1 := inside
    rw [List.getElem_singleton] at value
    exact Or.inl ⟨by omega, value.symm⟩

end Step

/-! ## The rule of non-interference -/

/-- A property of the shared state and one of every task, both of which may
speak of the events so far. -/
structure Holds
    (Shared : List (TaskEvent ρ ι χ) → σ → Prop)
    (Local : List (TaskEvent ρ ι χ) → σ → Nat → τ → Prop)
    (history : List (TaskEvent ρ ι χ))
    (state : TaskState σ τ) : Prop where
  shared : Shared history state.shared
  task : ∀ {index task}, state.tasks[index]? = some task →
    Local history state.shared index task

/-- What has to be shown of such a property: that it holds when nothing has
happened, that every step gives it to the task which acts or starts, and that
no step takes it from another task. -/
structure NonInterference
    (system : TaskSystem σ τ ρ ι χ)
    (start : σ)
    (Shared : List (TaskEvent ρ ι χ) → σ → Prop)
    (Local : List (TaskEvent ρ ι χ) → σ → Nat → τ → Prop) : Prop where
  initially : Shared [] start
  launches : ∀ {history state request task},
    run system.step ⟨start, []⟩ history = some state →
    Holds Shared Local history state →
    system.launch state.shared request = some task →
    Shared (history ++ [.launch request]) state.shared ∧
      Local (history ++ [.launch request]) state.shared state.tasks.length task
  advances : ∀ {history state index input task shared after},
    run system.step ⟨start, []⟩ history = some state →
    Holds Shared Local history state →
    state.tasks[index]? = some task →
    system.advance state.shared task input = some (shared, after) →
    Shared (history ++ [.advance index input]) shared ∧
      Local (history ++ [.advance index input]) shared index after
  disturbs : ∀ {history state cause shared},
    run system.step ⟨start, []⟩ history = some state →
    Holds Shared Local history state →
    system.disturb state.shared cause = some shared →
    Shared (history ++ [.disturb cause]) shared
  frame : ∀ {history state event next other task},
    run system.step ⟨start, []⟩ history = some state →
    Holds Shared Local history state →
    system.step state event = some next →
    (∀ input, event ≠ .advance other input) →
    state.tasks[other]? = some task →
    Local (history ++ [event]) next.shared other task

/-- A property without interference holds after every run. -/
theorem NonInterference.holds
    {system : TaskSystem σ τ ρ ι χ} {start : σ}
    {Shared : List (TaskEvent ρ ι χ) → σ → Prop}
    {Local : List (TaskEvent ρ ι χ) → σ → Nat → τ → Prop}
    (sound : NonInterference system start Shared Local)
    {history : List (TaskEvent ρ ι χ)} {state : TaskState σ τ}
    (reached : run system.step ⟨start, []⟩ history = some state) :
    Holds Shared Local history state := by
  apply run_invariant _ _ reached
  · exact ⟨sound.initially, by simp⟩
  · intro history state event next reached holds taken
    have kept : ∀ {other task}, (∀ input, event ≠ .advance other input) →
        state.tasks[other]? = some task →
          Local (history ++ [event]) next.shared other task :=
      sound.frame reached holds taken
    cases event with
    | launch request =>
        obtain ⟨task, launched, rfl⟩ := step_launch_eq_some.mp taken
        obtain ⟨shared, new⟩ := sound.launches reached holds launched
        refine ⟨shared, ?_⟩
        intro other found lookup
        rcases getElem?_concat_cases lookup with ⟨rfl, rfl⟩ | ⟨-, older⟩
        · exact new
        · exact kept (by simp) older
    | advance index input =>
        obtain ⟨task, shared, after, found, acted, rfl⟩ :=
          step_advance_eq_some.mp taken
        obtain ⟨global, acting⟩ := sound.advances reached holds found acted
        refine ⟨global, ?_⟩
        intro other found lookup
        rcases getElem?_set_cases lookup with ⟨rfl, rfl⟩ | ⟨different, same⟩
        · exact acting
        · apply kept _ same
          intro input equal
          cases equal
          exact different rfl
    | disturb cause =>
        obtain ⟨shared, disturbed, rfl⟩ := step_disturb_eq_some.mp taken
        exact ⟨sound.disturbs reached holds disturbed,
          fun lookup => kept (by simp) lookup⟩

/-- The rule for one task: what each of its own steps gives it, and no other
step takes from it, holds of it after every run. -/
theorem run_task
    {system : TaskSystem σ τ ρ ι χ} {opened : TaskState σ τ} {index : Nat}
    {Local : List (TaskEvent ρ ι χ) → τ → Prop}
    (initially : ∃ task, opened.tasks[index]? = some task ∧ Local [] task)
    (advances : ∀ {history state input task shared after},
      run system.step opened history = some state →
      state.tasks[index]? = some task → Local history task →
      system.advance state.shared task input = some (shared, after) →
      Local (history ++ [.advance index input]) after)
    (frame : ∀ {history state event next task},
      run system.step opened history = some state →
      system.step state event = some next →
      (∀ input, event ≠ .advance index input) → Local history task →
      Local (history ++ [event]) task)
    {history : List (TaskEvent ρ ι χ)} {state : TaskState σ τ}
    (reached : run system.step opened history = some state) :
    ∃ task, state.tasks[index]? = some task ∧ Local history task := by
  apply run_invariant initially _ reached
  rintro history state event next reached ⟨task, found, holds⟩ taken
  have inside := (List.getElem?_eq_some_iff.mp found).1
  have kept (other : ∀ input, event ≠ .advance index input) :
      Local (history ++ [event]) task := frame reached taken other holds
  cases event with
  | launch request =>
      obtain ⟨started, -, rfl⟩ := step_launch_eq_some.mp taken
      refine ⟨task, ?_, kept nofun⟩
      rw [List.getElem?_append_left inside]
      exact found
  | advance other input =>
      obtain ⟨acting, shared, after, foundActing, acted, rfl⟩ :=
        step_advance_eq_some.mp taken
      by_cases same : other = index
      · subst same
        cases found.symm.trans foundActing
        exact ⟨after, List.getElem?_set_self inside,
          advances reached found holds acted⟩
      · refine ⟨task, ?_, kept ?_⟩
        · rw [List.getElem?_set_ne same]
          exact found
        · rintro _ ⟨⟩
          exact same rfl
  | disturb cause =>
      obtain ⟨shared, -, rfl⟩ := step_disturb_eq_some.mp taken
      exact ⟨task, found, kept nofun⟩

/-! ## Names from a counter -/

/-- Tasks take their names from a counter of the shared state, one after the
other, and keep them. -/
structure Mints
    (system : TaskSystem σ τ ρ ι χ)
    (label : String) (counter : σ → Nat) (name : τ → Option String) :
    Prop where
  launches : ∀ {shared request task},
    system.launch shared request = some task → name task = none
  counts : ∀ {shared task input next after},
    system.advance shared task input = some (next, after) →
      counter shared ≤ counter next
  advances : ∀ {shared task input next after minted},
    system.advance shared task input = some (next, after) →
    name after = some minted →
      name task = some minted ∨
        (minted = label ++ toString (counter shared) ∧
          counter next = counter shared + 1)
  disturbs : ∀ {shared cause next},
    system.disturb shared cause = some next → counter shared ≤ counter next

/-- The names of tasks are below the counter, and no two are the same. -/
structure Minted
    (label : String) (counter : σ → Nat) (name : τ → Option String)
    (state : TaskState σ τ) : Prop where
  below : ∀ {index : Nat} {task : τ} {minted : String},
    state.tasks[index]? = some task → name task = some minted →
      Text.Numbered label (counter state.shared) minted
  distinct : ∀ {index other : Nat} {task second : τ} {minted : String},
    state.tasks[index]? = some task → state.tasks[other]? = some second →
    name task = some minted → name second = some minted → index = other

/-- The names of tasks are minted in every run. -/
theorem Mints.minted
    {system : TaskSystem σ τ ρ ι χ} {label : String} {counter : σ → Nat}
    {name : τ → Option String}
    (mints : Mints system label counter name)
    {start : σ} {history : List (TaskEvent ρ ι χ)} {state : TaskState σ τ}
    (reached : run system.step ⟨start, []⟩ history = some state) :
    Minted label counter name state := by
  apply run_state_invariant _ _ reached
  · exact ⟨by simp, by simp⟩
  · intro state event next invariant taken
    cases event with
    | launch request =>
        obtain ⟨started, launched, rfl⟩ := step_launch_eq_some.mp taken
        have nameless := mints.launches launched
        constructor
        · intro index task minted found named
          rcases getElem?_concat_cases found with ⟨-, rfl⟩ | ⟨-, older⟩
          · rw [nameless] at named
            cases named
          · exact invariant.below older named
        · intro index other task second minted found present named same
          rcases getElem?_concat_cases found with ⟨-, rfl⟩ | ⟨-, older⟩
          · rw [nameless] at named
            cases named
          · rcases getElem?_concat_cases present with ⟨-, rfl⟩ | ⟨-, elder⟩
            · rw [nameless] at same
              cases same
            · exact invariant.distinct older elder named same
    | advance place input =>
        obtain ⟨acting, shared, after, found, acted, rfl⟩ :=
          step_advance_eq_some.mp taken
        have counts := mints.counts acted
        -- A name that the acting task does not keep is new.
        have other {index : Nat} {task : τ} {minted : String}
            (apart : index ≠ place) (present : state.tasks[index]? = some task)
            (named : name task = some minted)
            (same : name after = some minted) : False := by
          rcases mints.advances acted same with kept | ⟨rfl, -⟩
          · exact apart (invariant.distinct present found named kept)
          · exact (invariant.below present named).ne_next rfl
        constructor
        · intro index task minted lookup named
          rcases getElem?_set_cases lookup with ⟨-, rfl⟩ | ⟨-, older⟩
          · rcases mints.advances acted named with kept | ⟨rfl, higher⟩
            · exact (invariant.below found kept).mono counts
            · exact ⟨_, by rw [higher]; exact Nat.lt_succ_self _, rfl⟩
          · exact (invariant.below older named).mono counts
        · intro index next task second minted lookup present named same
          rcases getElem?_set_cases lookup with
            ⟨rfl, rfl⟩ | ⟨apart, older⟩
          · rcases getElem?_set_cases present with
              ⟨rfl, rfl⟩ | ⟨apart, elder⟩
            · rfl
            · exact (other apart elder same named).elim
          · rcases getElem?_set_cases present with
              ⟨rfl, rfl⟩ | ⟨-, elder⟩
            · exact (other apart older named same).elim
            · exact invariant.distinct older elder named same
    | disturb cause =>
        obtain ⟨shared, disturbed, rfl⟩ := step_disturb_eq_some.mp taken
        exact ⟨fun found named =>
          (invariant.below found named).mono (mints.disturbs disturbed),
          invariant.distinct⟩

end TaskSystem

end WhatsGoingOn
