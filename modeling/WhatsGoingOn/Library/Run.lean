import Mathlib.Data.List.Basic
import Mathlib.Data.List.Induction

/-!
# Runs of transition systems

A system whose steps are a partial function of its state and an event.  An
invariant may speak of the events so far, which is how a property says that
something happened before.
-/

namespace WhatsGoingOn

variable {σ ε : Type*}

/-- The state after some events, if each of them is possible in its turn. -/
def run (step : σ → ε → Option σ) : σ → List ε → Option σ
  | state, [] => some state
  | state, event :: events =>
      (step state event).bind fun next => run step next events

/-- Something happened in one step of a run: `what` speaks of the events
before the step, the state, the event and the next state. -/
def Occurred
    (step : σ → ε → Option σ)
    (start : σ)
    (what : List ε → σ → ε → σ → Prop)
    (history : List ε) : Prop :=
  ∃ before event after state next,
    history = before ++ event :: after ∧
      run step start before = some state ∧
      step state event = some next ∧
      what before state event next

/-- A condition on every step of a run: on the state before it and the
event. -/
def Throughout
    (step : σ → ε → Option σ)
    (start : σ)
    (Condition : σ → ε → Prop)
    (history : List ε) : Prop :=
  ∀ before event after state,
    history = before ++ event :: after →
      run step start before = some state → Condition state event

/-- Whether every step of a run passes a check. -/
def checkEach (step : σ → ε → Option σ) (check : σ → ε → Bool) :
    σ → List ε → Bool
  | _, [] => true
  | state, event :: events =>
      check state event &&
        ((step state event).map fun next =>
          checkEach step check next events).getD true

/-- What the steps of a run emit, in order. -/
def collect {α : Type*} (step : σ → ε → Option σ)
    (emits : σ → ε → List α) : σ → List ε → List α
  | _, [] => []
  | state, event :: events =>
      match step state event with
      | none => []
      | some next => emits state event ++ collect step emits next events

section Run

variable {step : σ → ε → Option σ} {start state next : σ}

@[simp] theorem run_nil (step : σ → ε → Option σ) (start : σ) :
    run step start [] = some start := rfl

theorem run_cons (step : σ → ε → Option σ) (start : σ) (event : ε)
    (events : List ε) :
    run step start (event :: events) =
      (step start event).bind fun next => run step next events := rfl

theorem run_append (step : σ → ε → Option σ) (start : σ)
    (early late : List ε) :
    run step start (early ++ late) =
      (run step start early).bind fun state => run step state late := by
  induction early generalizing start with
  | nil => rfl
  | cons event early inductionHypothesis =>
      cases taken : step start event with
      | none => simp [run_cons, taken]
      | some next => simp [run_cons, taken, inductionHypothesis]

/-- A run ends with its last step. -/
theorem run_concat_eq_some {history : List ε} {event : ε} :
    run step start (history ++ [event]) = some next ↔
      ∃ state, run step start history = some state ∧
        step state event = some next := by
  rw [run_append, Option.bind_eq_some_iff]
  simp [run_cons]

/-- What a run shows of one of its steps. -/
theorem run_split
    {before after : List ε} {event : ε} {final : σ}
    (reached : run step start (before ++ event :: after) = some final) :
    ∃ state next, run step start before = some state ∧
      step state event = some next ∧ run step next after = some final := by
  rw [run_append] at reached
  obtain ⟨state, early, late⟩ := Option.bind_eq_some_iff.mp reached
  obtain ⟨next, taken, rest⟩ := Option.bind_eq_some_iff.mp late
  exact ⟨state, next, early, taken, rest⟩

/-- The rule of invariants: what holds at the start and is preserved by every
step holds after every run. -/
theorem run_invariant
    {Holds : List ε → σ → Prop}
    (initially : Holds [] start)
    (preserved : ∀ history state event next,
      run step start history = some state → Holds history state →
        step state event = some next → Holds (history ++ [event]) next)
    {history : List ε}
    (reached : run step start history = some state) :
    Holds history state := by
  induction history using List.reverseRecOn generalizing state with
  | nil =>
      cases reached
      exact initially
  | append_singleton history event inductionHypothesis =>
      obtain ⟨previous, early, taken⟩ := run_concat_eq_some.mp reached
      exact preserved history previous event state early
        (inductionHypothesis early) taken

/-- An invariant of the states alone. -/
theorem run_state_invariant
    {Holds : σ → Prop}
    (initially : Holds start)
    (preserved : ∀ state event next,
      Holds state → step state event = some next → Holds next)
    {history : List ε}
    (reached : run step start history = some state) :
    Holds state :=
  run_invariant initially
    (fun _ state event next _ holds => preserved state event next holds)
    reached

/-- A condition on every step of a run is one on every step of its start. -/
theorem Throughout.early
    {Condition : σ → ε → Prop} {early late : List ε}
    (throughout : Throughout step start Condition (early ++ late)) :
    Throughout step start Condition early := by
  intro before event after state shape
  exact throughout before event (after ++ late) state (by simp [shape])

/-- An invariant of the runs whose steps all meet a condition. -/
theorem run_invariant_throughout
    {Condition : σ → ε → Prop} {Holds : List ε → σ → Prop}
    (initially : Holds [] start)
    (preserved : ∀ history state event next,
      run step start history = some state → Holds history state →
        Condition state event → step state event = some next →
          Holds (history ++ [event]) next)
    {history : List ε}
    (reached : run step start history = some state)
    (throughout : Throughout step start Condition history) :
    Holds history state := by
  induction history using List.reverseRecOn generalizing state with
  | nil =>
      cases reached
      exact initially
  | append_singleton history event inductionHypothesis =>
      obtain ⟨previous, early, taken⟩ := run_concat_eq_some.mp reached
      exact preserved history previous event state early
        (inductionHypothesis early throughout.early)
        (throughout history event [] previous rfl early) taken

/-- What a step keeps exactly when it meets a condition holds in every state of
a run exactly when every step meets the condition. -/
theorem holds_iff_throughout
    {Condition : σ → ε → Prop} {Holds : σ → Prop}
    (initially : Holds start)
    (kept : ∀ history state event next,
      run step start history = some state → Holds state →
        step state event = some next →
          (Holds next ↔ Condition state event))
    {history : List ε}
    (reached : run step start history = some state) :
    (∀ early late earlier, history = early ++ late →
        run step start early = some earlier → Holds earlier) ↔
      Throughout step start Condition history := by
  constructor
  · rintro holds before event after earlier rfl early
    obtain ⟨middle, next, there, taken, -⟩ := run_split reached
    cases there.symm.trans early
    apply (kept before _ event next early
      (holds before (event :: after) _ rfl early) taken).mp
    apply holds (before ++ [event]) after next (by simp)
    exact run_concat_eq_some.mpr ⟨_, early, taken⟩
  · rintro throughout early late earlier rfl there
    apply run_invariant_throughout initially _ there throughout.early
    intro history state event next before holds condition taken
    exact (kept history state event next before holds taken).mpr condition

/-- Two conditions on every step of a run. -/
theorem Throughout.and
    {First Second : σ → ε → Prop} {history : List ε}
    (first : Throughout step start First history)
    (second : Throughout step start Second history) :
    Throughout step start
      (fun state event => First state event ∧ Second state event) history :=
  fun before event after state shape reached =>
    ⟨first before event after state shape reached,
      second before event after state shape reached⟩

/-- A condition on every step of a run is one on every step after the
first. -/
theorem Throughout.tail
    {Condition : σ → ε → Prop} {event : ε} {later : List ε}
    (throughout : Throughout step start Condition (event :: later))
    (taken : step start event = some next) :
    Throughout step next Condition later := by
  intro before current after state shape reached
  apply throughout (event :: before) current after state (by rw [shape]; rfl)
  exact Option.bind_eq_some_iff.mpr ⟨next, taken, reached⟩

/-- A run whose steps pass a check meets the condition that they do. -/
theorem throughout_of_checkEach
    {check : σ → ε → Bool} {history : List ε}
    (checked : checkEach step check start history = true) :
    Throughout step start (fun state event => check state event = true)
      history := by
  intro before event after state shape reached
  induction before generalizing start history with
  | nil =>
      cases reached
      subst shape
      simp only [List.nil_append, checkEach, Bool.and_eq_true] at checked
      exact checked.1
  | cons first before inductionHypothesis =>
      obtain ⟨middle, taken, rest⟩ := Option.bind_eq_some_iff.mp reached
      subst shape
      simp only [List.cons_append, checkEach, taken, Option.map_some,
        Option.getD_some, Bool.and_eq_true] at checked
      exact inductionHypothesis checked.2 rfl rest

/-- A run none of whose steps a check finds. -/
theorem throughout_of_checkEach_eq_false
    {check : σ → ε → Bool} {history : List ε}
    (checked : checkEach step (fun state event => !check state event) start
      history = true) :
    Throughout step start (fun state event => check state event = false)
      history := by
  intro before event after state shape reached
  exact (Bool.not_eq_true' _).mp
    (throughout_of_checkEach checked before event after state shape reached)

/-- What a run emits is what its two parts do. -/
theorem collect_append {α : Type*} (emits : σ → ε → List α)
    {early : List ε} (reached : run step start early = some state)
    (late : List ε) :
    collect step emits start (early ++ late) =
      collect step emits start early ++ collect step emits state late := by
  induction early generalizing start with
  | nil =>
      cases reached
      rfl
  | cons first early inductionHypothesis =>
      obtain ⟨middle, taken, rest⟩ := Option.bind_eq_some_iff.mp reached
      simp [collect, taken, inductionHypothesis rest]

/-- A run emits what its last step emits after all the rest. -/
theorem collect_concat {α : Type*}
    (emits : σ → ε → List α) {history : List ε} {event : ε}
    (reached : run step start history = some state)
    (taken : step state event = some next) :
    collect step emits start (history ++ [event]) =
      collect step emits start history ++ emits state event := by
  rw [collect_append emits reached]
  simp [collect, taken]

/-- What some step of a run has emitted is among all that it emits. -/
theorem mem_collect_of_occurred {α : Type*} {emits : σ → ε → List α}
    {value : α} {history : List ε}
    (occurred : Occurred step start
      (fun _ state event _ => value ∈ emits state event) history) :
    value ∈ collect step emits start history := by
  obtain ⟨before, event, after, state, next, rfl, reached, taken, emitted⟩ :=
    occurred
  rw [collect_append emits reached]
  simp [collect, taken, emitted]

namespace Occurred

variable {what : List ε → σ → ε → σ → Prop} {history : List ε} {event : ε}

/-- What the last step did has occurred. -/
theorem now
    (reached : run step start history = some state)
    (taken : step state event = some next)
    (happens : what history state event next) :
    Occurred step start what (history ++ [event]) :=
  ⟨history, event, [], state, next, rfl, reached, taken, happens⟩

/-- What has occurred stays so. -/
theorem append
    (occurred : Occurred step start what history) (later : List ε) :
    Occurred step start what (history ++ later) := by
  obtain ⟨before, event, after, state, next, rfl, rest⟩ := occurred
  exact ⟨before, event, after ++ later, state, next, by simp, rest⟩

/-- What has occurred did so in the last step or before it. -/
theorem concat_iff
    (reached : run step start history = some state)
    (taken : step state event = some next) :
    Occurred step start what (history ++ [event]) ↔
      Occurred step start what history ∨ what history state event next := by
  constructor
  · rintro ⟨before, first, after, middle, target, shape, early, moved,
      happened⟩
    -- The step is the last one, or one of the history.
    rcases List.eq_nil_or_concat' after with rfl | ⟨after, last, rfl⟩
    · obtain ⟨rfl, same⟩ := List.append_inj' shape rfl
      cases same
      cases reached.symm.trans early
      cases taken.symm.trans moved
      exact Or.inr happened
    · rw [← List.cons_append, ← List.append_assoc] at shape
      obtain ⟨rfl, -⟩ := List.append_inj' shape rfl
      exact Or.inl ⟨before, first, after, middle, target, rfl, early, moved,
        happened⟩
  · rintro (occurred | happens)
    · exact occurred.append [event]
    · exact now reached taken happens

theorem mono
    {weaker : List ε → σ → ε → σ → Prop}
    (occurred : Occurred step start what history)
    (weakens : ∀ before state event next,
      what before state event next → weaker before state event next) :
    Occurred step start weaker history := by
  obtain ⟨before, event, after, state, next, shape, reached, taken, happened⟩ :=
    occurred
  exact ⟨before, event, after, state, next, shape, reached, taken,
    weakens before state event next happened⟩

end Occurred

end Run

end WhatsGoingOn
