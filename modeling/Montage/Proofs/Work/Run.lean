import Montage.Work.Job

namespace Montage

/-!
# Runs of programs

A run is one way through a program. Before each call others may change the
state around the program; then the surroundings answer, in one of the ways in
which they can. A run of a program that goes on with another one is a run of
each, one after the other.
-/

/-- What others may do between two calls, and how calls may be answered. -/
structure Surroundings (State : Type) where
  meanwhile : State → State → Prop
  answers : State → (call : Call) → call.Answer → State → Prop

/-- A call that was answered, between the states before and after it. -/
structure Event (State : Type) where
  before : State
  call : Call
  answer : call.Answer
  after : State

variable {State Other : Type} {α β : Type}

/-- One way through a program, from a state to a value and a state. -/
inductive Run
    (surroundings : Surroundings State) :
    State → Program α → List (Event State) → α → State → Prop
  | done
      (state : State)
      (value : α) :
      Run surroundings state (.done value) [] value state
  | step
      {state before after final : State}
      {call : Call}
      {next : call.Answer → Program α}
      {answer : call.Answer}
      {events : List (Event State)}
      {value : α}
      (others : surroundings.meanwhile state before)
      (answered : surroundings.answers before call answer after)
      (rest : Run surroundings after (next answer) events value final) :
      Run surroundings state (.step call next)
        ({ before, call, answer, after } :: events) value final

namespace Run

variable {surroundings : Surroundings State} {state final : State}
  {events : List (Event State)}

/-- A program that goes on runs to a value, from which the other goes on. -/
theorem andThen_cases
    {program : Program α}
    {continuation : α → Program β}
    {value : β}
    (run :
      Run surroundings state (program.andThen continuation) events value
        final) :
    ∃ first second between middle,
      events = first ++ second ∧
      Run surroundings state program first between middle ∧
      Run surroundings middle (continuation between) second value final := by
  induction program generalizing state events with
  | done between => exact ⟨[], events, between, state, rfl, .done _ _, run⟩
  | step call next inductionHypothesis =>
      cases run with
      | step others answered rest =>
          obtain ⟨first, second, between, middle, shape, earlier, later⟩ :=
            inductionHypothesis _ rest
          subst shape
          exact ⟨_ :: first, second, between, middle, rfl,
            .step others answered earlier, later⟩

/-- A view of states under which the surroundings behave like other ones. -/
structure Views
    (view : State → Other)
    (surroundings : Surroundings State)
    (others : Surroundings Other) :
    Prop where
  meanwhile :
    ∀ {first second : State},
      surroundings.meanwhile first second →
      others.meanwhile (view first) (view second)
  answers :
    ∀ {before after : State} {call : Call} {answer : call.Answer},
      surroundings.answers before call answer after →
      others.answers (view before) call answer (view after)

end Run

/-- An event, with a view of its states. -/
def Event.viewed
    (view : State → Other)
    (event : Event State) :
    Event Other where
  before := view event.before
  call := event.call
  answer := event.answer
  after := view event.after

namespace Run

variable {surroundings : Surroundings State} {state final : State}
  {events : List (Event State)} {program : Program α} {value : α}

/-- A run can be seen through a view of its states. -/
theorem viewed
    {others : Surroundings Other}
    {view : State → Other}
    (views : Views view surroundings others)
    (run : Run surroundings state program events value final) :
    Run others (view state) program (events.map (Event.viewed view)) value
      (view final) := by
  induction run with
  | done state value => exact .done _ _
  | step meanwhile answered rest inductionHypothesis =>
      exact .step (views.meanwhile meanwhile) (views.answers answered)
        inductionHypothesis

/-- Every event of a run is an answer that the surroundings can give. -/
theorem answers_of_mem
    (run : Run surroundings state program events value final) :
    ∀ event ∈ events,
      surroundings.answers event.before event.call event.answer
        event.after := by
  induction run with
  | done state value => simp
  | step others answered rest inductionHypothesis =>
      intro event member
      rcases List.mem_cons.mp member with isFirst | isLater
      · subst isFirst
        exact answered
      · exact inductionHypothesis event isLater

/-- Answers that surroundings can give, one after another, make a run. -/
theorem of_answers
    (answer : State → (call : Call) → call.Answer × State)
    (idle : ∀ state, surroundings.meanwhile state state)
    (possible :
      ∀ state call,
        surroundings.answers state call (answer state call).1
          (answer state call).2)
    (state : State)
    (program : Program α) :
    ∃ events,
      Run surroundings state program events
        (program.run answer state).1 (program.run answer state).2 := by
  induction program generalizing state with
  | done value => exact ⟨[], .done state value⟩
  | step call next inductionHypothesis =>
      obtain ⟨events, rest⟩ :=
        inductionHypothesis (answer state call).1 (answer state call).2
      exact ⟨_, .step (idle state) (possible state call) rest⟩

end Run

namespace JobProgram

/-! ## Programs of one job from an account of its files -/

variable (files : JobFiles)

theorem start_pure (value : α) :
    (pure value : JobProgram α).start files = .done (.ok value, files) :=
  rfl

/-- After a failure a program of a job does not go on. -/
theorem start_bind
    (program : JobProgram α)
    (continuation : α → JobProgram β) :
    (program >>= continuation).start files =
      (program.start files).andThen fun ended =>
        match ended.1 with
        | .ok value => (continuation value).start ended.2
        | .error failure => .done (.error failure, ended.2) := by
  change Program.andThen _ _ = Program.andThen _ _
  congr 1
  funext ended
  rcases ended with ⟨outcome, after⟩
  cases outcome <;> rfl

theorem start_attempt (program : Program (Outcome α)) :
    (attempt program).start files =
      program.andThen fun outcome => .done (outcome, files) :=
  rfl

theorem start_ofProgram (program : Program α) :
    (ofProgram program).start files =
      program.andThen fun value => .done (.ok value, files) := by
  change Program.andThen (Program.andThen program _) _ = _
  rw [Program.andThen_assoc]
  rfl

theorem start_ofOutcome (outcome : Outcome α) :
    (ofOutcome outcome).start files = .done (outcome, files) :=
  rfl

theorem start_files :
    JobProgram.files.start files = .done (.ok files, files) :=
  rfl

theorem start_reserve (suffix : String) :
    (reserve suffix).start files =
      .done
        (.ok (files.workspace.named suffix),
          { files with
            workspace :=
              files.workspace.track (files.workspace.named suffix) }) :=
  rfl

theorem start_keep (path : Path) :
    (keep path).start files =
      .done (.ok (), { files with workspace := files.workspace.keep path }) :=
  rfl

theorem start_rememberAsset
    (address : String)
    (path : Path) :
    (rememberAsset address path).start files =
      .done
        (.ok (),
          { files with assets := setField address path files.assets }) :=
  rfl

end JobProgram

namespace Run

variable {surroundings : Surroundings State} {state final : State}
  {events : List (Event State)}

/-- A program of a job fails, or runs to a value, from which another goes on. -/
theorem bind_cases
    {program : JobProgram α}
    {continuation : α → JobProgram β}
    {files after : JobFiles}
    {outcome : Outcome β}
    (run :
      Run surroundings state ((program >>= continuation).start files) events
        (outcome, after) final) :
    (∃ failure,
      outcome = .error failure ∧
      Run surroundings state (program.start files) events
        (.error failure, after) final) ∨
    ∃ first second value between middle,
      events = first ++ second ∧
      Run surroundings state (program.start files) first
        (.ok value, between) middle ∧
      Run surroundings middle ((continuation value).start between) second
        (outcome, after) final := by
  rw [JobProgram.start_bind] at run
  obtain ⟨first, second, ⟨reached, between⟩, middle, shape, earlier, later⟩ :=
    run.andThen_cases
  cases reached with
  | ok value =>
      exact Or.inr
        ⟨first, second, value, between, middle, shape, earlier, later⟩
  | error failure =>
      left
      cases later
      rw [List.append_nil] at shape
      subst shape
      exact ⟨failure, rfl, earlier⟩

end Run

end Montage
