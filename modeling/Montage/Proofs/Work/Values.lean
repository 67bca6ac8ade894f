import Mathlib.Data.List.Forall2
import Montage.Proofs.Work.Run

namespace Montage

/-!
# Values of programs

What is sure about the value of a program whatever is answered to its calls. A
program of a job that goes on with another one has a value of the other.
-/

variable {State α β : Type}

namespace Program

/-- Whatever is answered, the value of a program is as expected. -/
inductive Yields (expected : α → Prop) : Program α → Prop
  | done
      {value : α}
      (isExpected : expected value) :
      Yields expected (.done value)
  | step
      {call : Call}
      {next : call.Answer → Program α}
      (goesOn : ∀ answer, Yields expected (next answer)) :
      Yields expected (.step call next)

namespace Yields

variable {expected : α → Prop} {program : Program α}

theorem andThen
    {wanted : β → Prop}
    {continuation : α → Program β}
    (yields : program.Yields expected)
    (goesOn : ∀ value, expected value → (continuation value).Yields wanted) :
    (program.andThen continuation).Yields wanted := by
  induction yields with
  | done isExpected => exact goesOn _ isExpected
  | step _ inductionHypothesis => exact .step inductionHypothesis

theorem imp
    {weaker : α → Prop}
    (yields : program.Yields expected)
    (follows : ∀ value, expected value → weaker value) :
    program.Yields weaker := by
  induction yields with
  | done isExpected => exact .done (follows _ isExpected)
  | step _ inductionHypothesis => exact .step inductionHypothesis

/-- What holds of every value can be expected of any program. -/
theorem of_forall
    (always : ∀ value, expected value)
    (program : Program α) :
    program.Yields expected := by
  induction program with
  | done value => exact .done (always value)
  | step call next inductionHypothesis => exact .step inductionHypothesis

/-- Every run ends with a value that is expected. -/
theorem of_run
    {surroundings : Surroundings State}
    {state final : State}
    {events : List (Event State)}
    {value : α}
    (yields : program.Yields expected)
    (run : Run surroundings state program events value final) :
    expected value := by
  induction run with
  | done state value =>
      cases yields with
      | done isExpected => exact isExpected
  | step others answered rest inductionHypothesis =>
      cases yields with
      | step goesOn => exact inductionHypothesis (goesOn _)

end Yields

end Program

namespace Outcome

/-- An outcome is a failure or has an expected value. -/
def Yields
    (expected : α → Prop)
    (outcome : Outcome α) :
    Prop :=
  ∀ value, outcome = .ok value → expected value

namespace Yields

variable {expected : α → Prop} {wanted : β → Prop} {outcome : Outcome α}
  {continuation : α → Outcome β}

theorem ok
    {value : α}
    (isExpected : expected value) :
    Outcome.Yields expected (.ok value) := by
  intro other same
  cases same
  exact isExpected

theorem error
    {failure : Failure} :
    Outcome.Yields expected (.error failure) := by
  intro value same
  cases same

theorem bind
    (yields : Outcome.Yields expected outcome)
    (goesOn :
      ∀ value, expected value → Outcome.Yields wanted (continuation value)) :
    Outcome.Yields wanted (outcome >>= continuation) := by
  cases outcome with
  | error failure => exact error
  | ok value => exact goesOn value (yields value rfl)

/-- What an outcome yields is its value. -/
theorem self : Outcome.Yields (fun value => outcome = .ok value) outcome :=
  fun _ => id

/-- Whatever comes first, the value is that of what follows. -/
theorem after
    (goesOn : ∀ value, Outcome.Yields wanted (continuation value)) :
    Outcome.Yields wanted (outcome >>= continuation) := by
  cases outcome with
  | error failure => exact error
  | ok value => exact goesOn value

theorem mapM
    {make : α → Outcome β}
    {related : α → β → Prop}
    (items : List α)
    (each : ∀ item ∈ items, (make item).Yields (related item)) :
    (items.mapM make).Yields fun made =>
      List.Forall₂ related items made := by
  induction items with
  | nil => exact .ok .nil
  | cons item others inductionHypothesis =>
      rw [List.forall_mem_cons] at each
      rw [List.mapM_cons]
      refine each.1.bind fun value isRelated => ?_
      refine (inductionHypothesis each.2).bind fun made areRelated => ?_
      exact .ok (.cons isRelated areRelated)

end Yields

/-- An outcome is an expected value. -/
def Succeeds
    (expected : α → Prop)
    (outcome : Outcome α) :
    Prop :=
  ∃ value, outcome = .ok value ∧ expected value

namespace Succeeds

variable {expected : α → Prop} {wanted : β → Prop} {outcome : Outcome α}
  {continuation : α → Outcome β}

theorem ok
    {value : α}
    (isExpected : expected value) :
    Outcome.Succeeds expected (.ok value) :=
  ⟨value, rfl, isExpected⟩

theorem bind
    (succeeds : Outcome.Succeeds expected outcome)
    (goesOn :
      ∀ value, expected value → Outcome.Succeeds wanted (continuation value)) :
    Outcome.Succeeds wanted (outcome >>= continuation) := by
  obtain ⟨value, rfl, isExpected⟩ := succeeds
  exact goesOn value isExpected

theorem map
    {change : α → β}
    (succeeds : Outcome.Succeeds expected outcome)
    (goesOn : ∀ value, expected value → wanted (change value)) :
    Outcome.Succeeds wanted (outcome.map change) := by
  obtain ⟨value, rfl, isExpected⟩ := succeeds
  exact ⟨change value, rfl, goesOn value isExpected⟩

theorem of_isOk
    (isOk : outcome.isOk = true) :
    Outcome.Succeeds (fun _ => True) outcome := by
  cases outcome with
  | error failure => cases isOk
  | ok value => exact ok trivial

end Succeeds

/-- A value of two outcomes in a row comes from a value of the first. -/
theorem exists_of_bind
    {outcome : Outcome α}
    {next : α → Outcome β}
    {result : β}
    (isResult : outcome.bind next = .ok result) :
    ∃ value, outcome = .ok value ∧ next value = .ok result := by
  cases outcome with
  | error failure => cases isResult
  | ok value => exact ⟨value, rfl, isResult⟩

/-- Two outcomes in a row have a value if each of them has. -/
theorem bind_eq_ok_iff
    {outcome : Outcome α}
    {continuation : α → Outcome β} :
    (∃ result, (outcome >>= continuation) = .ok result) ↔
      ∃ value,
        outcome = .ok value ∧
        ∃ result, continuation value = .ok result := by
  cases outcome with
  | error failure =>
      refine iff_of_false ?_ (by simp)
      rintro ⟨result, isResult⟩
      cases isResult
  | ok value =>
      constructor
      · exact fun isResult => ⟨value, rfl, isResult⟩
      · rintro ⟨_, same, isResult⟩
        cases same
        exact isResult

/-- What only changes a value has one if the value is there. -/
theorem bind_pure_eq_ok_iff
    {outcome : Outcome α}
    {change : α → β} :
    (∃ result,
      (outcome >>= fun value => pure (change value)) = .ok result) ↔
      ∃ value, outcome = .ok value :=
  bind_eq_ok_iff.trans (exists_congr fun _ => and_iff_left ⟨_, rfl⟩)

/-- A value stays the same when failures are told in other words. -/
theorem mapError_eq_ok
    {ε : Type}
    {result : Except ε α}
    {change : ε → Failure}
    {value : α} :
    result.mapError change = .ok value ↔ result = .ok value := by
  cases result with
  | error cause => exact iff_of_false nofun nofun
  | ok other =>
      rw [Except.mapError, Except.ok.injEq, Except.ok.injEq]

/-- A failure stays one when it is told in other words. -/
theorem mapError_eq_ok_iff
    {ε : Type}
    {result : Except ε α}
    {change : ε → Failure} :
    (∃ value, result.mapError change = .ok value) ↔
      ∃ value, result = .ok value :=
  exists_congr fun _ => mapError_eq_ok

/-- Items are mapped if each of them is. -/
theorem mapM_eq_ok_iff
    {make : α → Outcome β}
    {items : List α} :
    (∃ made, items.mapM make = .ok made) ↔
      ∀ item ∈ items, ∃ value, make item = .ok value := by
  induction items with
  | nil => exact iff_of_true ⟨[], rfl⟩ (by simp)
  | cons item others inductionHypothesis =>
      rw [List.mapM_cons, List.forall_mem_cons, ← inductionHypothesis]
      refine bind_eq_ok_iff.trans ?_
      simp only [bind_pure_eq_ok_iff, exists_and_right]

end Outcome

namespace JobProgram

/-- From any account on, a program of a job fails or has an expected value. -/
def Yields
    (expected : α → Prop)
    (program : JobProgram α) :
    Prop :=
  ∀ files,
    (program.start files).Yields fun ended =>
      ∀ value, ended.1 = .ok value → expected value

namespace Yields

variable {expected : α → Prop} {wanted : β → Prop} {program : JobProgram α}
  {continuation : α → JobProgram β}

theorem pure
    {value : α}
    (isExpected : expected value) :
    Yields expected (Pure.pure value) := by
  intro files
  apply Program.Yields.done
  intro other same
  cases same
  exact isExpected

theorem ofOutcome
    {outcome : Outcome α}
    (yields : Outcome.Yields expected outcome) :
    Yields expected (JobProgram.ofOutcome outcome) :=
  fun _ => .done yields

theorem imp
    {weaker : α → Prop}
    (yields : program.Yields expected)
    (follows : ∀ value, expected value → weaker value) :
    program.Yields weaker := by
  intro files
  refine (yields files).imp fun ended isExpected value isValue => ?_
  exact follows value (isExpected value isValue)

/-- What a program yields may be expected by the one that follows. -/
theorem bind
    (yields : program.Yields expected)
    (goesOn : ∀ value, expected value → (continuation value).Yields wanted) :
    (program >>= continuation).Yields wanted := by
  intro files
  rw [start_bind]
  apply (yields files).andThen
  rintro ⟨outcome, after⟩ isExpected
  cases outcome with
  | ok value => exact goesOn value (isExpected value rfl) after
  | error failure =>
      apply Program.Yields.done
      intro value same
      cases same

/-- Whatever comes first, the value is that of the program that follows. -/
theorem after
    (goesOn : ∀ value, (continuation value).Yields wanted) :
    (program >>= continuation).Yields wanted := by
  have anything : program.Yields fun _ => True :=
    fun _ => .of_forall (fun _ _ _ => trivial) _
  exact anything.bind fun value _ => goesOn value

theorem attempt
    {program : Program (Outcome α)}
    (yields :
      program.Yields fun outcome =>
        ∀ value, outcome = .ok value → expected value) :
    Yields expected (JobProgram.attempt program) := by
  intro files
  rw [start_attempt]
  exact yields.andThen fun outcome isExpected => .done isExpected

/-- Every run that does not fail ends with an expected value. -/
theorem of_run
    {surroundings : Surroundings State}
    {state final : State}
    {events : List (Event State)}
    {files after : JobFiles}
    {value : α}
    (yields : program.Yields expected)
    (run :
      Run surroundings state (program.start files) events (.ok value, after)
        final) :
    expected value :=
  (yields files).of_run run value rfl

end Yields

/-! ## Outcomes in surroundings -/

/-- In surroundings, every run of a program of a job has an expected
outcome. -/
structure EndsIn
    (surroundings : Surroundings State)
    (expected : Outcome α → Prop)
    (program : JobProgram α) :
    Prop where
  of_run :
    ∀ {state final : State} {events : List (Event State)}
      {files after : JobFiles} {outcome : Outcome α},
      Run surroundings state (program.start files) events (outcome, after)
        final →
      expected outcome

namespace EndsIn

variable {surroundings : Surroundings State} {expected : Outcome α → Prop}
  {wanted : Outcome β → Prop} {program : JobProgram α}
  {continuation : α → JobProgram β}

theorem ofOutcome
    {outcome : Outcome α}
    (isExpected : expected outcome) :
    EndsIn surroundings expected (JobProgram.ofOutcome outcome) := by
  refine ⟨fun run => ?_⟩
  cases run
  exact isExpected

theorem reserve
    (suffix : String) :
    EndsIn surroundings (Outcome.Succeeds fun _ => True)
      (JobProgram.reserve suffix) := by
  refine ⟨fun run => ?_⟩
  cases run
  exact .ok trivial

/-- A call that knows nothing of failures has some answer. -/
theorem perform
    (call : Call) :
    EndsIn surroundings (Outcome.Succeeds fun _ => True)
      (JobProgram.ofProgram (Program.perform call)) := by
  refine ⟨fun run => ?_⟩
  cases run with
  | step _ _ rest =>
      cases rest
      exact .ok trivial

theorem imp
    {weaker : Outcome α → Prop}
    (ends : program.EndsIn surroundings expected)
    (follows : ∀ outcome, expected outcome → weaker outcome) :
    program.EndsIn surroundings weaker :=
  ⟨fun run => follows _ (ends.of_run run)⟩

theorem bind
    {expected : α → Prop}
    (ends : program.EndsIn surroundings (Outcome.Succeeds expected))
    (goesOn :
      ∀ value, expected value →
        (continuation value).EndsIn surroundings wanted) :
    (program >>= continuation).EndsIn surroundings wanted := by
  refine ⟨fun run => ?_⟩
  rcases run.bind_cases with
    ⟨failure, _, earlier⟩ |
      ⟨first, second, value, between, middle, _, earlier, later⟩
  · obtain ⟨value, same, _⟩ := ends.of_run earlier
    cases same
  · obtain ⟨reached, same, isExpected⟩ := ends.of_run earlier
    cases same
    exact (goesOn value isExpected).of_run later

/-- All ends well if both parts do. -/
theorem bind_iff
    {condition later : Prop}
    (ends :
      program.EndsIn surroundings fun outcome =>
        (outcome.isOk = true ↔ condition))
    (goesOn :
      ∀ value,
        (continuation value).EndsIn surroundings fun outcome =>
          (outcome.isOk = true ↔ later)) :
    (program >>= continuation).EndsIn surroundings fun outcome =>
      (outcome.isOk = true ↔ condition ∧ later) := by
  refine ⟨fun run => ?_⟩
  rcases run.bind_cases with
    ⟨failure, rfl, earlier⟩ |
      ⟨first, second, value, between, middle, _, earlier, later⟩
  · refine iff_of_false Bool.false_ne_true fun holds => ?_
    exact Bool.false_ne_true ((ends.of_run earlier).mpr holds.1)
  · rw [and_iff_right ((ends.of_run earlier).mp rfl)]
    exact (goesOn value).of_run later

/-- A program that does not fail does not change whether all ends well. -/
theorem bindSucceeding
    {condition : Prop}
    (ends :
      program.EndsIn surroundings fun outcome =>
        (outcome.isOk = true ↔ condition))
    (goesOn :
      ∀ value,
        (continuation value).EndsIn surroundings
          (Outcome.Succeeds fun _ => True)) :
    (program >>= continuation).EndsIn surroundings fun outcome =>
      (outcome.isOk = true ↔ condition) := by
  have always :
      ∀ value,
        (continuation value).EndsIn surroundings fun outcome =>
          (outcome.isOk = true ↔ True) := by
    refine fun value => ⟨fun run => ?_⟩
    obtain ⟨_, rfl, _⟩ := (goesOn value).of_run run
    exact iff_of_true rfl trivial
  simpa only [and_true] using ends.bind_iff always

end EndsIn

end JobProgram

/-! ## Fixed answers -/

/-- Answers of surroundings in which only the probe fails. -/
def Call.favourable : (call : Call) → call.Answer
  | .makeDirectories _ => .ok ()
  | .freeBytes _ => .ok (.whole (1024 * 1024 * 1024))
  | .readFile _ => .ok []
  | .writeFile _ _ => .ok ()
  | .appendFile _ _ => .ok ()
  | .holds _ => .ok true
  | .fileSize _ => .ok 5
  | .removeFiles _ => .ok ()
  | .fontFile name => name
  | .fontFamily name => name
  | .request _ => .ok { status := 200 }
  | .post _ _ => .ok 200
  | .encode _ => .ok {}
  | .probe _ => .error .nullCharacter
  | .download _ _ => .ok ()
  | .upload _ _ _ => .ok ""
  | .sleep _ => ()
  | .tell _ => .ok ()
  | .schedule => true

/-- The value of a program all of whose calls are answered in one way. -/
def Program.valueWith
    {α : Type}
    (answer : (call : Call) → call.Answer)
    (program : Program α) :
    α :=
  (program.run (fun (_ : Unit) call => (answer call, ())) ()).1

theorem Program.valueWith_bind
    {α β : Type}
    (answer : (call : Call) → call.Answer)
    (program : Program α)
    (next : α → Program β) :
    (program >>= next).valueWith answer =
      (next (program.valueWith answer)).valueWith answer := by
  induction program with
  | done value => rfl
  | step call goesOn inductionHypothesis =>
      exact inductionHypothesis (answer call)

/-- The account of a job that has no files yet. -/
def noFiles : JobFiles where
  workspace := { jobId := "a", root := .ofText "/" }

end Montage
