import Montage.Proofs.Registry.Ownership
import Montage.Proofs.Render.Plan

namespace Montage

/-!
# Courses of records

What the record of a job goes through while the job runs. Others may ask the
registry whatever they like about other jobs, and all calls but those to the
registry may be answered in any way; still the record stays as it is except when
the job tells of its next station, and it reaches the stations of the job's plan
one after the other.
-/

namespace Registry

/-- How a registry answers calls: what is told is told at two readings of the
clock, and other calls, however they are answered, leave it. -/
def Answers
    (hook : EvictionHook)
    (before : Registry) :
    (call : Call) → call.Answer → Registry → Prop
  | .tell update, answer, after =>
      ∃ now later,
        let change :=
          before.tell update.jobId update.status.name
            (.ofInteger? update.progress) update.fields now later hook
        answer = change.result.map (fun _ => ()) ∧ after = change.registry
  | _, _, after => after = before

/-- A registry around a job: others ask it about other jobs. -/
def surroundings
    (hook : EvictionHook)
    (id : String) :
    Surroundings Registry where
  meanwhile before after :=
    ∃ calls : List RegistryCall,
      (∀ call ∈ calls, call.id? ≠ some id) ∧ after = before.play hook calls
  answers := Answers hook

theorem Answers.eq_of_not_isTell
    {hook : EvictionHook}
    {before after : Registry}
    {call : Call}
    {answer : call.Answer}
    (answers : Answers hook before call answer after)
    (tellsNot : call.isTell = false) :
    after = before := by
  cases call with
  | tell update => cases tellsNot
  | _ => exact answers

end Registry

/--
What the record of an id goes through along events: each event leaves the
record, or moves it to a station where it was not.
-/
inductive Course (id : String) :
    Job → List (Event Registry) → List JobStatus → Job → Prop
  | ended (job : Job) : Course id job [] [] job
  | stays
      {job last : Job}
      {event : Event Registry}
      {events : List (Event Registry)}
      {stations : List JobStatus}
      (before : event.before.find? id = some job)
      (after : event.after.find? id = some job)
      (rest : Course id job events stations last) :
      Course id job (event :: events) stations last
  | moves
      {job next last : Job}
      {event : Event Registry}
      {events : List (Event Registry)}
      {stations : List JobStatus}
      (before : event.before.find? id = some job)
      (after : event.after.find? id = some next)
      (elsewhere : next.status ≠ job.status)
      (rest : Course id next events stations last) :
      Course id job (event :: events) (next.status :: stations) last

namespace Course

variable {id : String}

theorem append
    {first middle last : Job}
    {events others : List (Event Registry)}
    {stations further : List JobStatus}
    (earlier : Course id first events stations middle)
    (later : Course id middle others further last) :
    Course id first (events ++ others) (stations ++ further) last := by
  induction earlier with
  | ended job => exact later
  | stays before after _ inductionHypothesis =>
      exact .stays before after (inductionHypothesis later)
  | moves before after elsewhere _ inductionHypothesis =>
      exact .moves before after elsewhere (inductionHypothesis later)

end Course

section Runs

variable {hook : EvictionHook} {id : String} {state final : Registry}
  {job : Job} {events : List (Event Registry)}

theorem Registry.Owned.meanwhile
    {before : Registry}
    (owned : state.Owned id job)
    (others : (Registry.surroundings hook id).meanwhile state before) :
    before.Owned id job := by
  obtain ⟨calls, elsewhere, played⟩ := others
  rw [played]
  exact owned.play hook elsewhere

/-- Along a run that tells the registry nothing, the record stays as it is. -/
theorem Registry.Owned.course_of_run
    {α : Type}
    {program : Program α}
    {value : α}
    (owned : state.Owned id job)
    (run :
      Run (Registry.surroundings hook id) state program events value final)
    (tellsNot : ∀ event ∈ events, event.call.isTell = false) :
    Course id job events [] job ∧ final.Owned id job := by
  induction run with
  | done state value => exact ⟨.ended job, owned⟩
  | @step state before after final call next answer events value others
      answered rest inductionHypothesis =>
      have ownedBefore := owned.meanwhile others
      have same : after = before :=
        answered.eq_of_not_isTell (tellsNot _ List.mem_cons_self)
      subst same
      obtain ⟨course, ownedAtEnd⟩ :=
        inductionHypothesis ownedBefore fun event member =>
          tellsNot event (List.mem_cons_of_mem _ member)
      exact ⟨.stays ownedBefore.found ownedBefore.found course, ownedAtEnd⟩

variable {submission : Submission}

/-- A job that tells of a new station moves its record there. -/
theorem Submission.tell_course
    {status : JobStatus}
    {progress : Option Int}
    {fields : Fields}
    {changed : Job}
    {outcome : Outcome Unit}
    (owned : state.Owned submission.jobId job)
    (checked : Registry.checkFields fields = .ok ())
    (heeded : job.ignores status = false)
    (updated :
      job.updated status (.ofInteger? progress) fields = (.ok (), changed))
    (isStatus : changed.status = status)
    (elsewhere : status ≠ job.status)
    (run :
      Run (Registry.surroundings hook submission.jobId) state
        (submission.tell status progress fields) events outcome final) :
    ∃ last touched,
      last = { changed with touched } ∧
      Course submission.jobId job events [status] last ∧
      final.Owned submission.jobId last ∧
      ((∀ other, hook.SparesCaller other) → outcome = .ok ()) := by
  cases run with
  | @step _ before after _ _ _ answer _ _ others answered rest =>
      cases rest
      have ownedBefore := owned.meanwhile others
      obtain ⟨now, later, isAnswer, isAfter⟩ := answered
      obtain ⟨ownedAfter, succeeds⟩ :=
        ownedBefore.tell checked heeded updated now later hook
      subst isAfter
      obtain ⟨last, isLast⟩ :
          ∃ last : Job, last = { changed with touched := now } := ⟨_, rfl⟩
      have lastStatus : last.status = status := by
        rw [isLast]
        exact isStatus
      rw [← isLast] at ownedAfter succeeds
      subst lastStatus
      refine ⟨last, now, isLast, ?_, ownedAfter, ?_⟩
      · exact .moves ownedBefore.found ownedAfter.found elsewhere (.ended last)
      · intro harmless
        rw [isAnswer, succeeds harmless]
        rfl

/-- A job that is done ignores what it still tells. -/
theorem Submission.tell_course_of_final
    {status : JobStatus}
    {progress : Option Int}
    {message : String}
    {outcome : Outcome Unit}
    (owned : state.Owned submission.jobId job)
    (isDone : job.status = .done)
    (run :
      Run (Registry.surroundings hook submission.jobId) state
        (submission.tell status progress [("error", .text message)]) events
        outcome final) :
    Course submission.jobId job events [] job ∧
      final.Owned submission.jobId job := by
  cases run with
  | @step _ before after _ _ _ answer _ _ others answered rest =>
      cases rest
      have ownedBefore := owned.meanwhile others
      obtain ⟨now, later, isAnswer, isAfter⟩ := answered
      have ignored : job.ignores status = true := by
        simp [Job.ignores, isDone, JobStatus.isFinal]
      have same : final = before := by
        rw [isAfter]
        exact congrArg Change.registry
          (Registry.tell_of_ignored ownedBefore.found rfl
            (JobStatus.find?_name status) ignored _ now later hook)
      subst same
      exact ⟨.stays ownedBefore.found ownedBefore.found (.ended job),
        ownedBefore⟩

end Runs

/-! ## Records of jobs that follow a plan -/

namespace Job

/-- A record of a job that is neither done nor has failed. -/
structure Running (job : Job) : Prop where
  whole : ∃ progress : Int, job.progress = .whole progress
  empty : job.results = []
  unfinished : job.status.isFinal = false

theorem Running.notDone
    {job : Job}
    (running : job.Running) :
    job.status ≠ .done := by
  intro isDone
  have unfinished := running.unfinished
  rw [isDone] at unfinished
  cases unfinished

theorem Running.notError
    {job : Job}
    (running : job.Running) :
    job.status ≠ .error := by
  intro isError
  have unfinished := running.unfinished
  rw [isError] at unfinished
  cases unfinished

/-- A running job can still fail. -/
theorem Running.rank_lt
    {job : Job}
    (running : job.Running) :
    job.status.rank < JobStatus.rank .error := by
  have unfinished := running.unfinished
  cases status : job.status <;> simp_all [JobStatus.rank, JobStatus.isFinal]

/-- A running job heeds every later station. -/
theorem Running.heeds
    {job : Job}
    (running : job.Running)
    {status : JobStatus}
    (later : job.status.rank < status.rank) :
    job.ignores status = false := by
  have notBefore : ¬ status.rank < job.status.rank := by omega
  simp [ignores, running.unfinished, notBefore]

/-- A record that moves to a station between takes nothing else over. -/
theorem Running.updated
    {job : Job}
    (running : job.Running)
    {status : JobStatus}
    (early : status.isFinal = false)
    (told : Option Int) :
    ∃ changed,
      job.updated status (.ofInteger? told) [] = (.ok (), changed) ∧
      changed.status = status ∧
      ∀ touched, ({ changed with touched } : Job).Running := by
  obtain ⟨progress, whole⟩ := running.whole
  refine ⟨job.movedTo status progress told, ?_, rfl, ?_⟩
  · rw [updated_eq whole]
    rfl
  · intro touched
    exact ⟨⟨_, rfl⟩, running.empty, early⟩

/-- A record that is done takes over the results. -/
theorem Running.updated_done
    {job : Job}
    (running : job.Running)
    {fields results : Fields}
    (recordable : Recordable fields results)
    (told : Option Int) :
    ∃ changed,
      job.updated .done (.ofInteger? told) fields = (.ok (), changed) ∧
      changed.status = .done ∧
      changed.results = results := by
  obtain ⟨progress, whole⟩ := running.whole
  obtain ⟨outputPath, set⟩ :=
    recordable.recorded (job.movedTo .done progress told) running.empty
  refine ⟨{ job.movedTo .done progress told with results, outputPath }, ?_,
    rfl, rfl⟩
  rw [updated_eq whole, set]

/-- A record that failed takes over the error. -/
theorem Running.updated_error
    {job : Job}
    (running : job.Running)
    (message : String)
    (told : Option Int) :
    ∃ changed,
      job.updated .error (.ofInteger? told) [("error", .text message)] =
        (.ok (), changed) ∧
      changed.status = .error ∧
      changed.error = .text message := by
  obtain ⟨progress, whole⟩ := running.whole
  refine ⟨{ job.movedTo .error progress told with error := .text message },
    ?_, rfl, rfl⟩
  rw [updated_eq whole]
  simp [setResults, setResult]

end Job

/-- The record of a job that was taken in is queued when the job starts. -/
theorem Registry.started_of_admitted
    {hook : EvictionHook}
    {registry : Registry}
    (wellKeyed : registry.WellKeyed)
    {id : String}
    {project : Json}
    {now later : Binary64}
    {queued : Job}
    (admitted :
      (registry.enroll id project now later hook).result = .ok queued) :
    Registry.Owned
        ((registry.enroll id project now later hook).registry.startTask id) id
        queued ∧
      queued.status = .queued ∧
      queued.Running := by
  obtain ⟨isFresh, enrolled⟩ := Registry.Owned.of_enroll wellKeyed admitted
  refine ⟨enrolled.startTask, ?_, ?_⟩
  · rw [isFresh]
    rfl
  · rw [isFresh]
    exact ⟨⟨0, rfl⟩, rfl, rfl⟩

/-- How the part of a job that may fail ends: it is done, or it failed at some
station, or the final sweep failed although the record is done. -/
inductive WorkEnds
    (harmless : Prop)
    (submission : Submission)
    (plan : List JobStatus) :
    List JobStatus → Job → Outcome Fields → Prop
  | done
      {last : Job}
      (isDone : last.status = .done) :
      WorkEnds harmless submission plan plan last
        (.ok (submission.successNotice last.results))
  | failed
      {reached : List JobStatus}
      {last : Job}
      {failure : Failure}
      (isPrefix : reached <+: plan)
      (notDone : .done ∉ reached)
      (running : last.Running) :
      WorkEnds harmless submission plan reached last (.error failure)
  | struck
      {last : Job}
      {failure : Failure}
      (isDone : last.status = .done)
      (harmful : ¬ harmless) :
      WorkEnds harmless submission plan plan last (.error failure)

namespace WorkEnds

variable {harmless : Prop} {submission : Submission}
  {plan stations : List JobStatus} {last : Job} {outcome : Outcome Fields}

/-- One more station at the beginning. -/
theorem cons
    {status : JobStatus}
    (early : status.isFinal = false)
    (ends : WorkEnds harmless submission plan stations last outcome) :
    WorkEnds harmless submission (status :: plan) (status :: stations) last
      outcome := by
  cases ends with
  | done isDone => exact .done isDone
  | failed isPrefix notDone running =>
      refine .failed (List.cons_prefix_cons.mpr ⟨rfl, isPrefix⟩) ?_ running
      intro member
      rcases List.mem_cons.mp member with isStatus | inReached
      · rw [← isStatus] at early
        cases early
      · exact notDone inReached
  | struck isDone harmful => exact .struck isDone harmful

end WorkEnds

section Plans

variable {hook : EvictionHook} {submission : Submission}
  {state final : Registry} {job : Job} {events : List (Event Registry)}
  {files after : JobFiles}

/-- A job that tells that it is done has its results in its record. -/
theorem Submission.finish_course
    {fields results : Fields}
    {outcome : Outcome Fields}
    (owned : state.Owned submission.jobId job)
    (running : job.Running)
    (below : job.status.rank < JobStatus.rank .done)
    (recordable : Recordable fields results)
    (run :
      Run (Registry.surroundings hook submission.jobId) state
        ((submission.reach .done 100 fields >>= fun _ =>
          pure (submission.successNotice results)).start files)
        events (outcome, after) final) :
    after = files ∧
      ∃ last,
        Course submission.jobId job events [.done] last ∧
        final.Owned submission.jobId last ∧
        last.status = .done ∧
        WorkEnds (∀ other, hook.SparesCaller other) submission [.done] [.done]
          last outcome := by
  obtain ⟨changed, updated, isDone, hasResults⟩ :=
    running.updated_done recordable (some 100)
  have elsewhere : JobStatus.done ≠ job.status := by
    intro same
    rw [← same] at below
    exact Nat.lt_irrefl _ below
  rcases run.bind_cases with
    ⟨failure, isError, reached⟩ |
    ⟨first, second, _, between, middle, shape, reached, later⟩
  · obtain ⟨sameFiles, told⟩ := reach_cases reached
    obtain ⟨last, touched, isLast, course, ownedAtEnd, succeeds⟩ :=
      tell_course owned recordable.checked (running.heeds below) updated
        isDone elsewhere told
    have lastDone : last.status = .done := by
      rw [isLast]
      exact isDone
    refine ⟨sameFiles, last, course, ownedAtEnd, lastDone, ?_⟩
    rw [isError]
    refine .struck lastDone ?_
    intro harmless
    cases succeeds harmless
  · obtain ⟨sameFiles, told⟩ := reach_cases reached
    obtain ⟨last, touched, isLast, course, ownedAtEnd, _⟩ :=
      tell_course owned recordable.checked (running.heeds below) updated
        isDone elsewhere told
    have lastDone : last.status = .done := by
      rw [isLast]
      exact isDone
    have lastResults : last.results = results := by
      rw [isLast]
      exact hasResults
    rw [JobProgram.start_pure] at later
    cases later
    rw [List.append_nil] at shape
    subst shape
    refine ⟨sameFiles, last, course, ownedAtEnd, lastDone, ?_⟩
    rw [← lastResults]
    exact .done lastDone

/-- A job that reaches a station between has its record there, still running. -/
theorem Submission.reach_course
    {status : JobStatus}
    {progress : Int}
    {outcome : Outcome Unit}
    (owned : state.Owned submission.jobId job)
    (running : job.Running)
    (early : status.isFinal = false)
    (later : job.status.rank < status.rank)
    (run :
      Run (Registry.surroundings hook submission.jobId) state
        ((submission.reach status progress []).start files) events
        (outcome, after) final) :
    after = files ∧
      ∃ next,
        Course submission.jobId job events [status] next ∧
        final.Owned submission.jobId next ∧
        next.Running ∧
        next.status = status := by
  obtain ⟨changed, updated, isStatus, runningAfter⟩ :=
    running.updated early (some progress)
  have elsewhere : status ≠ job.status := by
    intro same
    rw [same] at later
    exact Nat.lt_irrefl _ later
  obtain ⟨sameFiles, told⟩ := reach_cases run
  obtain ⟨next, touched, isNext, course, ownedAtEnd, _⟩ :=
    tell_course owned rfl (running.heeds later) updated isStatus elsewhere told
  refine ⟨sameFiles, next, course, ownedAtEnd, ?_, ?_⟩
  · rw [isNext]
    exact runningAfter touched
  · rw [isNext]
    exact isStatus

/--
The record of a job that follows a plan goes through the stations of the plan,
all of them if the job is done; and only the output of a composition that is
done is excepted from removal.
-/
theorem Follows.course
    {references : List AssetReference}
    {offers : Bool}
    {plan : List JobStatus}
    {program : JobProgram Fields}
    {outcome : Outcome Fields}
    (follows : Follows submission references offers plan files program)
    (owned : state.Owned submission.jobId job)
    (running : job.Running)
    (rising :
      (job.status :: plan).Pairwise fun first second =>
        first.rank < second.rank)
    (run :
      Run (Registry.surroundings hook submission.jobId) state
        (program.start files) events (outcome, after) final) :
    ∃ stations last,
      Course submission.jobId job events stations last ∧
      final.Owned submission.jobId last ∧
      WorkEnds (∀ other, hook.SparesCaller other) submission plan stations
        last outcome ∧
      after.workspace.kept =
        (if offers = true ∧ last.status = .done then
          [after.workspace.named "_output.mp4"]
        else
          []) ++ files.workspace.kept := by
  induction follows generalizing state job events with
  | @making _ plan files _ _ _ accounts _ inductionHypothesis =>
      rcases run.bind_cases with
        ⟨failure, isError, prepared⟩ |
        ⟨first, second, value, between, middle, shape, prepared, later⟩
      · have result := accounts.of_run prepared
        obtain ⟨course, ownedAtEnd⟩ :=
          owned.course_of_run prepared fun event member =>
            Call.isTell_of_isQuiet (result.quiet event member)
        refine ⟨[], job, course, ownedAtEnd, ?_, ?_⟩
        · rw [isError]
          exact .failed List.nil_prefix List.not_mem_nil running
        · simp [running.notDone, result.kept]
      · have result := accounts.of_run prepared
        obtain ⟨course, ownedBetween⟩ :=
          owned.course_of_run prepared fun event member =>
            Call.isTell_of_isQuiet (result.quiet event member)
        obtain ⟨stations, last, further, ownedAtEnd, ends, kept⟩ :=
          inductionHypothesis value between result.extended
            (result.isExpected value rfl) ownedBetween running rising later
        refine ⟨stations, last, ?_, ownedAtEnd, ends, ?_⟩
        · rw [shape]
          exact course.append further
        · rw [kept, result.kept]
  | @reaching status progress plan files rest early _ inductionHypothesis =>
      obtain ⟨below, risingLater⟩ := List.pairwise_cons.mp rising
      have later := below status List.mem_cons_self
      rcases run.bind_cases with
        ⟨failure, isError, reached⟩ |
        ⟨first, second, _, between, middle, shape, reached, further⟩
      · obtain ⟨sameFiles, last, course, ownedAtEnd, lastRunning, _⟩ :=
          Submission.reach_course owned running early later reached
        refine ⟨[status], last, course, ownedAtEnd, ?_, ?_⟩
        · rw [isError]
          apply WorkEnds.cons early
          exact .failed List.nil_prefix List.not_mem_nil lastRunning
        · simp [lastRunning.notDone, sameFiles]
      · obtain ⟨sameFiles, next, course, ownedBetween, nextRunning,
            nextStatus⟩ :=
          Submission.reach_course owned running early later reached
        subst sameFiles
        obtain ⟨stations, last, onward, ownedAtEnd, ends, kept⟩ :=
          inductionHypothesis ownedBetween nextRunning
            (nextStatus ▸ risingLater) further
        refine ⟨status :: stations, last, ?_, ownedAtEnd, ends.cons early,
          kept⟩
        rw [shape]
        exact course.append onward
  | @delivered files results delivers noOutput recordable =>
      have below := (List.pairwise_cons.mp rising).1 .done List.mem_cons_self
      obtain ⟨sameFiles, last, course, ownedAtEnd, isDone, ends⟩ :=
        Submission.finish_course owned running below recordable run
      subst sameFiles
      exact ⟨[.done], last, course, ownedAtEnd, ends, by simp [delivers]⟩
  | @offered files fields results output isOffer isOutput _ recordable =>
      have below := (List.pairwise_cons.mp rising).1 .done List.mem_cons_self
      rw [JobProgram.start_bind, JobProgram.start_keep] at run
      obtain ⟨sameFiles, last, course, ownedAtEnd, isDone, ends⟩ :=
        Submission.finish_course owned running below recordable run
      subst sameFiles
      refine ⟨[.done], last, course, ownedAtEnd, ends, ?_⟩
      simp [isOffer, isDone, isOutput, Workspace.keep, Workspace.named]

end Plans

end Montage
