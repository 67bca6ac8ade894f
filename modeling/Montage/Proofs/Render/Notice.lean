import Montage.Proofs.Render.Course
import Montage.Proofs.Render.Phases
import Montage.Proofs.Work.Values

namespace Montage

/-!
# What clients are told

A client is told once, when the record of its job is final and the files of the
job are removed, and it is told what the record says: the results if the job is
done, and the error if it failed.
-/

/--
A notice that says what a record says, which went through stations: all of the
plan, or the first ones and then an error.
-/
inductive NoticeAgrees
    (submission : Submission)
    (stations : List JobStatus)
    (last : Job) :
    Fields → Prop
  | success
      (isDone : last.status = .done)
      (followed : stations = submission.plan) :
      NoticeAgrees submission stations last
        (submission.notice "success" last.results)
  | failure
      {reached : List JobStatus}
      (hasFailed : last.status = .error)
      (isPrefix : reached <+: submission.plan)
      (notDone : .done ∉ reached)
      (stopped : stations = reached ++ [.error]) :
      NoticeAgrees submission stations last
        (submission.notice "error" [("error", last.error)])

/-- A job whose client is told has a final record. -/
theorem NoticeAgrees.isFinal
    {submission : Submission}
    {stations : List JobStatus}
    {last : Job}
    {fields : Fields}
    (agrees : NoticeAgrees submission stations last fields) :
    last.status.isFinal = true := by
  cases agrees with
  | success isDone followed =>
      rw [isDone]
      rfl
  | failure hasFailed isPrefix notDone stopped =>
      rw [hasFailed]
      rfl

namespace Submission

variable {hook : EvictionHook} {submission : Submission}
  {state final : Registry} {last : Job} {stations : List JobStatus}
  {events : List (Event Registry)}

/-- A job that settles makes a failure final, and leaves a record that is
done; what it then tells agrees with the record. -/
theorem settle_course
    {ended notice : Outcome Fields}
    (owned : state.Owned submission.jobId last)
    (ends :
      WorkEnds (∀ other, hook.SparesCaller other) submission submission.plan
        stations last ended)
    (run :
      Run (Registry.surroundings hook submission.jobId) state
        (submission.settle ended) events notice final) :
    ∃ further record,
      Course submission.jobId last events further record ∧
      final.Owned submission.jobId record ∧
      (record.status = .done ↔ last.status = .done) ∧
      ((∀ other, hook.SparesCaller other) →
        ∃ fields,
          notice = .ok fields ∧
          NoticeAgrees submission (stations ++ further) record fields) := by
  cases ends with
  | done isDone =>
      cases run
      refine ⟨[], last, .ended last, owned, Iff.rfl, fun _ => ?_⟩
      exact ⟨_, rfl, .success isDone (List.append_nil _)⟩
  | @failed reached _ failure isPrefix notDone running =>
      obtain ⟨first, second, told, middle, shape, earlier, later⟩ :=
        run.andThen_cases
      obtain ⟨changed, updated, isError, hasError⟩ :=
        running.updated_error failure.message none
      obtain ⟨record, touched, isRecord, course, ownedAtEnd, succeeds⟩ :=
        tell_course owned rfl (running.heeds running.rank_lt) updated isError
          running.notError.symm earlier
      cases later
      rw [List.append_nil] at shape
      subst shape
      have recordStatus : record.status = .error := by
        rw [isRecord]
        exact isError
      have recordError : record.error = .text failure.message := by
        rw [isRecord]
        exact hasError
      refine ⟨[.error], record, course, ownedAtEnd, ?_, ?_⟩
      · simp [recordStatus, running.notDone]
      · intro harmless
        refine ⟨submission.failureNotice failure, ?_, ?_⟩
        · rw [succeeds harmless]
          rfl
        · unfold failureNotice
          rw [← recordError]
          exact .failure recordStatus isPrefix notDone rfl
  | @struck _ failure isDone harmful =>
      obtain ⟨first, second, told, middle, shape, earlier, later⟩ :=
        run.andThen_cases
      cases later
      rw [List.append_nil] at shape
      subst shape
      obtain ⟨course, ownedAtEnd⟩ := tell_course_of_final owned isDone earlier
      exact ⟨[], last, course, ownedAtEnd, Iff.rfl, fun harmless =>
        (harmful harmless).elim⟩

/-- The record of a job from the first call of its work to the last, on a server
whose directory is written as paths are. -/
theorem course_of_work
    {server : RenderServer}
    (canonical : server.tempDirectory.Canonical)
    {queued : Job}
    {files : JobFiles}
    {ended : Outcome Fields}
    (owned : state.Owned submission.jobId queued)
    (running : queued.Running)
    (isQueued : queued.status = .queued)
    (run :
      Run (Registry.surroundings hook submission.jobId) state
        ((submission.work server).start (submission.startingFiles server))
        events (ended, files) final) :
    ∃ stations last,
      Course submission.jobId queued events stations last ∧
      final.Owned submission.jobId last ∧
      WorkEnds (∀ other, hook.SparesCaller other) submission submission.plan
        stations last ended ∧
      files.workspace.kept =
        if submission.request.isComposition = true ∧ last.status = .done then
          [files.workspace.named "_output.mp4"]
        else
          [] := by
  have rising :
      (queued.status :: submission.plan).Pairwise fun first second =>
        first.rank < second.rank := by
    unfold plan
    rw [isQueued]
    split <;> decide
  obtain ⟨stations, last, course, ownedAtEnd, ends, kept⟩ :=
    (work_follows server submission canonical).course owned running rising run
  refine ⟨stations, last, course, ownedAtEnd, ends, ?_⟩
  simpa [startingFiles] using kept

/-- The record of a job from the first call of its run to the last. -/
theorem work_course
    {settings : Settings}
    {storageBase : Option String}
    {queued : Job}
    {files : JobFiles}
    {ended : Outcome Fields}
    (owned : state.Owned submission.jobId queued)
    (running : queued.Running)
    (isQueued : queued.status = .queued)
    (run :
      Run (Registry.surroundings hook submission.jobId) state
        ((submission.work (.ofSettings settings storageBase)).start
          (submission.startingFiles (.ofSettings settings storageBase)))
        events (ended, files) final) :
    ∃ stations last,
      Course submission.jobId queued events stations last ∧
      final.Owned submission.jobId last ∧
      WorkEnds (∀ other, hook.SparesCaller other) submission submission.plan
        stations last ended ∧
      files.workspace.kept =
        if submission.request.isComposition = true ∧ last.status = .done then
          [files.workspace.named "_output.mp4"]
        else
          [] :=
  course_of_work (Path.ofText_canonical _) owned running isQueued run

/-- The record of a job at the end of its run, however the registry is seen, and
what is excepted from removal: the output of a composition, if the record is
done. -/
theorem ending_course
    {State : Type}
    {surroundings : Surroundings State}
    {view : State → Registry}
    (views :
      Run.Views view surroundings
        (Registry.surroundings hook submission.jobId))
    {server : RenderServer}
    (canonical : server.tempDirectory.Canonical)
    {queued : Job}
    {ready worked settled uncleaned cleaned last : State}
    {working settling sending : List (Event State)}
    {ended notice : Outcome Fields}
    {files : JobFiles}
    {removed outcome : Outcome Unit}
    (owned : (view ready).Owned submission.jobId queued)
    (running : queued.Running)
    (isQueued : queued.status = .queued)
    (works :
      Run surroundings ready
        ((submission.work server).start (submission.startingFiles server))
        working (ended, files) worked)
    (settles :
      Run surroundings worked (submission.settle ended) settling notice
        settled)
    (others : surroundings.meanwhile settled uncleaned)
    (removes :
      surroundings.answers uncleaned
        (.removeFiles files.workspace.disposable) removed cleaned)
    (sends :
      Run surroundings cleaned
        (submission.sendNotice server removed notice) sending outcome last) :
    ∃ record,
      (view last).Owned submission.jobId record ∧
      files.workspace.kept =
        if submission.request.isComposition = true ∧ record.status = .done then
          [files.workspace.named "_output.mp4"]
        else
          [] := by
  obtain ⟨stations, worker, _, ownedAfterWork, ends, kept⟩ :=
    course_of_work canonical owned running isQueued (works.viewed views)
  obtain ⟨further, record, _, ownedAfterSettling, sameEnd, _⟩ :=
    settle_course ownedAfterWork ends (settles.viewed views)
  have ownedUncleaned := ownedAfterSettling.meanwhile (views.meanwhile others)
  have sameRegistry : view cleaned = view uncleaned := views.answers removes
  rw [← sameRegistry] at ownedUncleaned
  obtain ⟨_, ownedAtEnd⟩ :=
    ownedUncleaned.course_of_run (sends.viewed views) (by
      intro event member
      obtain ⟨seen, isSeen, isEvent⟩ := List.mem_map.mp member
      subst isEvent
      exact Call.isTell_of_isSending
        ((sendNotice_limited _ _ _ _).of_run sends seen isSeen))
  refine ⟨record, ownedAtEnd, ?_⟩
  simp only [kept, sameEnd]

end Submission

/-! ## A composition that is done -/

/-- Surroundings in which only the probe fails, with a registry. -/
def Registry.favourable (registry : Registry) :
    (call : Call) → call.Answer × Registry
  | .tell update =>
      let change :=
        registry.tell update.jobId update.status.name
          (.ofInteger? update.progress) update.fields 0 0 fun _ => none
      (change.result.map fun _ => (), change.registry)
  | call => (call.favourable, registry)

/-- A composition of one subtitle without text. -/
def RenderRequest.silent : RenderRequest where
  jobId := some "a"
  projectId := none
  callbackUrl := some "http://client.test/done"
  timeline := some [{
    kind := .subtitle
    url := none
    start := 0
    stop := none
    text := none
    style := none }]
  output := none
  videoUrl := none
  audioUrl := none
  effects := {}
  text := none
  subtitleUrl := none
  subtitleContent := none

theorem Registry.favourable_possible
    (id : String)
    (registry : Registry)
    (call : Call) :
    (Registry.surroundings (fun _ => none) id).answers registry call
      (registry.favourable call).1 (registry.favourable call).2 := by
  cases call with
  | tell update => exact ⟨0, 0, rfl, rfl⟩
  | _ => rfl

end Montage
