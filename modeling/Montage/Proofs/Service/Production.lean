import Montage.Proofs.Render.Delivery
import Montage.Proofs.Service.Outputs

namespace Montage

/-!
# The output of a run

A run of a job leaves an output that its record offers, or it leaves the output
as it found it, or it removes it. What a job that is done has delivered is what
its own encoder left; before the encoder ran, the output was as the job had found
it.
-/

/-! ## Records that become done -/

namespace Job

theorem moveTo_status
    (job : Job)
    (status : JobStatus)
    (progress : Json) :
    (job.moveTo status progress).2.status = status := by
  unfold moveTo
  cases job.progressAfter status progress <;> rfl

/-- An update moves a record to its station, whatever becomes of the rest. -/
theorem updated_status
    (job : Job)
    (status : JobStatus)
    (progress : Json)
    (fields : Fields) :
    (job.updated status progress fields).2.status = status := by
  have moved := moveTo_status job status progress
  unfold updated
  rcases shape : job.moveTo status progress with ⟨outcome, changed⟩
  rw [shape] at moved
  cases outcome with
  | error failure => exact moved
  | ok done => exact (setResults_sameStanding changed fields).status.trans moved

end Job

/-- A record was written when a call told that the job is done. -/
def Job.FinishedBy
    (job : Job)
    (call : Call) :
    Prop :=
  ∃ (update : StatusUpdate) (old : Job) (touched : Binary64),
    call = .tell update ∧
    update.status = .done ∧
    old.id = update.jobId ∧
    job =
      { (old.updated update.status (.ofInteger? update.progress)
          update.fields).2 with
        touched }

/-- All that is told along events is told of one job. -/
def TellsOf
    {State : Type}
    (id : String)
    (events : List (Event State)) :
    Prop :=
  ∀ event ∈ events, ∀ update, event.call = .tell update → update.jobId = id

namespace Registry

variable {α : Type} {hook : EvictionHook} {id : String}
  {state final : Registry} {job record : Job} {program : Program α}
  {events : List (Event Registry)} {value : α}

/-- What the answer to a call does to the record of the job that makes it:
nothing, or the record heeds what it is told. -/
theorem Owned.answered_cases
    {before after : Registry}
    {call : Call}
    {answer : call.Answer}
    (owned : before.Owned id job)
    (answered : Answers hook before call answer after)
    (tellsOf : ∀ update, call = .tell update → update.jobId = id) :
    ∃ changed,
      after.Owned id changed ∧
      (changed = job ∨
        ∃ (update : StatusUpdate) (touched : Binary64),
          call = .tell update ∧
          job.ignores update.status = false ∧
          changed =
            { (job.updated update.status (.ofInteger? update.progress)
                update.fields).2 with
              touched }) := by
  cases call with
  | tell update =>
      have ofJob := tellsOf update rfl
      subst ofJob
      obtain ⟨now, later, _, isAfter⟩ := answered
      obtain ⟨changed, ownedAfter, cases⟩ :=
        owned.tell_cases update.status update.progress update.fields now later
          hook
      refine ⟨changed, isAfter ▸ ownedAfter, ?_⟩
      rcases cases with same | ⟨heeded, touched, isUpdated⟩
      · exact Or.inl same
      · exact Or.inr ⟨update, touched, rfl, heeded, isUpdated⟩
  | _ => exact ⟨job, answered ▸ owned, Or.inl rfl⟩

/-- A record that is done stays as it is. -/
theorem Owned.stays_done
    (owned : state.Owned id job)
    (isDone : job.status = .done)
    (run : Run (surroundings hook id) state program events value final)
    (tellsOf : TellsOf id events) :
    final.Owned id job := by
  induction run with
  | done state value => exact owned
  | step others answered rest inductionHypothesis =>
      obtain ⟨changed, ownedAfter, cases⟩ :=
        (owned.meanwhile others).answered_cases answered
          (tellsOf _ List.mem_cons_self)
      have same : changed = job := by
        rcases cases with same | ⟨update, _, _, heeded, _⟩
        · exact same
        · simp [Job.ignores, isDone, JobStatus.isFinal] at heeded
      subst same
      exact inductionHypothesis ownedAfter fun event member =>
        tellsOf event (List.mem_cons_of_mem _ member)

/-- A record that becomes done along a run was told to be done. -/
theorem Owned.finished_of_run
    (owned : state.Owned id job)
    (notDone : job.status ≠ .done)
    (run : Run (surroundings hook id) state program events value final)
    (tellsOf : TellsOf id events)
    (found : final.find? id = some record)
    (isDone : record.status = .done) :
    ∃ event ∈ events, record.FinishedBy event.call := by
  induction run generalizing job with
  | done state value =>
      have same : job = record :=
        Option.some.inj (owned.found.symm.trans found)
      exact (notDone (same ▸ isDone)).elim
  | @step state before after final call next answer events value others
      answered rest inductionHypothesis =>
      have tellsLater : TellsOf id events := fun event member =>
        tellsOf event (List.mem_cons_of_mem _ member)
      have ownedBefore := owned.meanwhile others
      obtain ⟨changed, ownedAfter, cases⟩ :=
        ownedBefore.answered_cases answered (tellsOf _ List.mem_cons_self)
      by_cases becomesDone : changed.status = .done
      · -- From here on the record stays, so it is the one at the end.
        have ownedAtEnd := ownedAfter.stays_done becomesDone rest tellsLater
        have same : changed = record :=
          Option.some.inj (ownedAtEnd.found.symm.trans found)
        subst same
        rcases cases with same | ⟨update, touched, isTell, _, isUpdated⟩
        · exact (notDone (same ▸ becomesDone)).elim
        · refine ⟨_, List.mem_cons_self, update, job, touched, isTell, ?_, ?_,
            isUpdated⟩
          · rw [← becomesDone, isUpdated]
            exact (Job.updated_status _ _ _ _).symm
          · rw [ownedBefore.wellKeyed.id_of_find? ownedBefore.found]
            exact (tellsOf _ List.mem_cons_self update isTell).symm
      · obtain ⟨event, member, finished⟩ :=
          inductionHypothesis ownedAfter becomesDone tellsLater found
        exact ⟨event, List.mem_cons_of_mem _ member, finished⟩

end Registry

/-! ## Calls of a job -/

namespace Submission

variable {server : RenderServer} {submission : Submission}

/-- A call that a job may make: it writes to files of the job, and tells of the
job, and of no output but its own. -/
structure Orders
    (server : RenderServer)
    (submission : Submission)
    (call : Call) :
    Prop where
  owned :
    ∀ path ∈ call.targets, submission.OwnsPath server.tempDirectory path
  told :
    ∀ update, call = .tell update →
      update.jobId = submission.jobId ∧
      ∀ value, ("output_path", value) ∈ update.fields →
        value = .text (server.outputOf submission.jobId).toText

/-- A program that is in order makes such calls only. -/
theorem Conducts.limited
    {stage : OutputStage}
    {program : Program (Outcome Unit)}
    (conducts : submission.Conducts server stage program) :
    program.Limited (submission.Orders server) := by
  induction conducts with
  | ended => exact .done _
  | called allowed _ inductionHypothesis =>
      refine .step ⟨allowed.owned, fun update isTell => ?_⟩ inductionHypothesis
      obtain ⟨ofJob, noOutput⟩ := allowed.told update isTell
      exact ⟨ofJob, fun value member => (noOutput value member).elim⟩
  | looked _ _ present absent =>
      refine .step ⟨by simp [Call.targets], by simp⟩ fun answer => ?_
      by_cases isThere : answer = .ok true
      · exact isThere ▸ present
      · exact absent answer isThere
  | offered _ inductionHypothesis =>
      refine .step ⟨by simp [Call.targets], ?_⟩ inductionHypothesis
      rintro update ⟨⟩
      refine ⟨rfl, fun value member => ?_⟩
      simpa [offer] using member
  | gaveUp _ inductionHypothesis => exact inductionHypothesis

/-- Every call of a job is one that it may make. -/
theorem run_orders
    (canonical : server.tempDirectory.Canonical)
    (submission : Submission) :
    (submission.run server).Limited (submission.Orders server) :=
  (submission.run_conducts canonical).limited

theorem TellsOf.of_orders
    {State : Type}
    {events : List (Event State)}
    (orders : ∀ event ∈ events, submission.Orders server event.call) :
    TellsOf submission.jobId events :=
  fun event member update isTell => ((orders event member).told update isTell).1

end Submission

/-! ## The output while the job runs -/

namespace Scene

/--
What the answer to a call does to an output. It is removed with the files before
the first name that no file can have. Other calls that do not target it leave
it; and what is found is there.
-/
def OutputAnswers
    (output : Path)
    (before : Scene) :
    (call : Call) → call.Answer → Scene → Prop
  | .removeFiles paths, _, after =>
      after.disk.fileAt? output =
        if output ∈ paths.takeWhile Path.isUsable then none
        else before.disk.fileAt? output
  | .holds path, answer, after =>
      after.disk.fileAt? output = before.disk.fileAt? output ∧
      (path = output →
        answer = .ok true →
        ∃ content, before.disk.fileAt? output = some content)
  | call, _, after =>
      output ∉ call.targets →
        after.disk.fileAt? output = before.disk.fileAt? output

/-- The scene around a job and its output: others ask the registry about other
jobs, and leave the output. -/
def outputSurroundings
    (server : RenderServer)
    (submission : Submission) :
    Surroundings Scene where
  meanwhile before after :=
    (Registry.surroundings removesOutput submission.jobId).meanwhile
      before.registry after.registry ∧
    after.disk.fileAt? (server.outputOf submission.jobId) =
      before.disk.fileAt? (server.outputOf submission.jobId)
  answers before call answer after :=
    Registry.Answers removesOutput before.registry call answer
      after.registry ∧
    OutputAnswers (server.outputOf submission.jobId) before call answer after

/-- The registry of a scene is the one around the job. -/
theorem outputSurroundings_views
    (server : RenderServer)
    (submission : Submission) :
    Run.Views Scene.registry (outputSurroundings server submission)
      (Registry.surroundings removesOutput submission.jobId) where
  meanwhile := And.left
  answers := And.left

/-- A call that does not target an output leaves it. -/
theorem OutputAnswers.leaves
    {output : Path}
    {before after : Scene}
    {call : Call}
    {answer : call.Answer}
    (answers : OutputAnswers output before call answer after)
    (noTarget : output ∉ call.targets) :
    after.disk.fileAt? output = before.disk.fileAt? output := by
  cases call with
  | removeFiles paths =>
      have notRemoved : output ∉ paths.takeWhile Path.isUsable := fun member =>
        noTarget ((List.takeWhile_sublist _).subset member)
      rw [show after.disk.fileAt? output = _ from answers, if_neg notRemoved]
  | holds path => exact answers.1
  | _ => exact answers noTarget

end Scene

section Runs

variable {α : Type} {server : RenderServer} {submission : Submission}
  {program : Program α} {state final : Scene}
  {events first second : List (Event Scene)} {event : Event Scene} {value : α}

/-- The rest of a run, after an event. -/
theorem Run.rest_of_event
    {State : Type}
    {surroundings : Surroundings State}
    {state final : State}
    {event : Event State}
    {first second : List (Event State)}
    (run :
      Run surroundings state program (first ++ event :: second) value
        final) :
    ∃ rest : Program α,
      Run surroundings event.after rest second value final := by
  induction first generalizing state program with
  | nil =>
      cases run with
      | step others answered rest => exact ⟨_, rest⟩
  | cons earlier others inductionHypothesis =>
      cases run with
      | step others answered rest => exact inductionHypothesis rest

/-- The output is left by a run that does not touch it. -/
theorem Run.output_stays
    (run :
      Run (Scene.outputSurroundings server submission) state program events
        value final)
    (untouched : submission.Untouched server events) :
    final.disk.fileAt? (server.outputOf submission.jobId) =
        state.disk.fileAt? (server.outputOf submission.jobId) ∧
      ∀ event ∈ events,
        event.after.disk.fileAt? (server.outputOf submission.jobId) =
          state.disk.fileAt? (server.outputOf submission.jobId) := by
  induction run with
  | done state value => simp
  | step others answered rest inductionHypothesis =>
      have here :=
        (answered.2.leaves (untouched _ List.mem_cons_self)).trans others.2
      obtain ⟨stays, along⟩ :=
        inductionHypothesis fun event member =>
          untouched event (List.mem_cons_of_mem _ member)
      refine ⟨stays.trans here, fun event member => ?_⟩
      rcases List.mem_cons.mp member with isFirst | isLater
      · rw [isFirst]
        exact here
      · exact (along event isLater).trans here

/-- Before an event the output is as it was, if it was not touched. -/
theorem Run.output_before
    (run :
      Run (Scene.outputSurroundings server submission) state program
        (first ++ event :: second) value final)
    (untouched : submission.Untouched server first) :
    event.before.disk.fileAt? (server.outputOf submission.jobId) =
      state.disk.fileAt? (server.outputOf submission.jobId) := by
  induction first generalizing state program with
  | nil =>
      cases run with
      | step others answered rest => exact others.2
  | cons earlier others inductionHypothesis =>
      cases run with
      | step others answered rest =>
          have here :=
            (answered.2.leaves (untouched _ List.mem_cons_self)).trans others.2
          exact (inductionHypothesis rest fun event member =>
            untouched event (List.mem_cons_of_mem _ member)).trans here

end Runs

/-! ## What a run makes of the output -/

namespace Submission

/-- A job delivers a content: its encoder left it in the output, which before was
as the job had found it, and it was uploaded from there, or stood there to the
end of the run. -/
structure Delivers
    (server : RenderServer)
    (submission : Submission)
    (start : Scene)
    (rendering : Event Scene)
    (later : List (Event Scene))
    (final : Scene)
    (content : Bytes) :
    Prop where
  renders : submission.Renders server rendering
  asFound :
    rendering.before.disk.fileAt? (server.outputOf submission.jobId) =
      start.disk.fileAt? (server.outputOf submission.jobId)
  stands :
    rendering.after.disk.fileAt? (server.outputOf submission.jobId) =
      some content
  uploaded :
    submission.request.isComposition = false →
    ∃ upload ∈ later,
      submission.Uploads server upload ∧
      upload.before.disk.fileAt? (server.outputOf submission.jobId) =
        some content
  kept :
    submission.request.isComposition = true →
    final.disk.fileAt? (server.outputOf submission.jobId) = some content ∧
    ∀ event ∈ later,
      event.after.disk.fileAt? (server.outputOf submission.jobId) =
        some content

/-- What a run leaves of the output: it is offered, left as it was found,
removed, or left because the removal stopped. -/
inductive LeavesOutput
    (server : RenderServer)
    (submission : Submission)
    (start : Scene)
    (events : List (Event Scene))
    (final : Scene) :
    Job → Prop
  | offered
      {record : Job}
      (offers : record.Offers server) :
      LeavesOutput server submission start events final record
  | untouched
      {record : Job}
      (untouched : submission.Untouched server events)
      (same :
        final.disk.fileAt? (server.outputOf submission.jobId) =
          start.disk.fileAt? (server.outputOf submission.jobId)) :
      LeavesOutput server submission start events final record
  | removed
      {record : Job}
      (gone :
        final.disk.fileAt? (server.outputOf submission.jobId) = none) :
      LeavesOutput server submission start events final record
  | stopped
      {record : Job}
      {paths : List Path}
      {removal : Event Scene}
      (member : removal ∈ events)
      (removes : removal.call = .removeFiles paths)
      (isPlanned : server.outputOf submission.jobId ∈ paths)
      (unusable : ∃ path ∈ paths, path.isUsable = false) :
      LeavesOutput server submission start events final record

section Runs

variable {server : RenderServer} {submission : Submission}
  {start final : Scene} {events : List (Event Scene)}
  {outcome : Outcome Unit} {job record : Job}

/-- A run that produces its result delivers a content. -/
theorem Produces.delivers
    {program : Program (Outcome Unit)}
    (produces : submission.Produces server events)
    (run :
      Run (Scene.outputSurroundings server submission) start program events
        outcome final) :
    ∃ making rendering later content,
      events = making ++ rendering :: later ∧
      submission.Delivers server start rendering later final content := by
  obtain ⟨making, rendering, look, later, rfl, untouched, renders, finds,
    delivered⟩ := produces.result
  obtain ⟨rest, goesOn⟩ := run.rest_of_event
  have asFound := run.output_before untouched
  obtain ⟨seen, found, rfl⟩ := finds.succeeds
  obtain ⟨content, stands⟩ :
      ∃ content,
        rendering.after.disk.fileAt? (server.outputOf submission.jobId) =
          some content := by
    obtain ⟨content, isThere⟩ :=
      (goesOn.answers_of_mem _ List.mem_cons_self).2.2 rfl rfl
    have nothing : submission.Untouched server ([] : List (Event Scene)) := by
      simp [Untouched]
    exact ⟨content, (Run.output_before goesOn nothing).symm.trans isThere⟩
  refine ⟨making, rendering, _, content, rfl, renders, asFound, stands, ?_,
    ?_⟩
  · intro isFlat
    cases delivered with
    | @uploaded waiting rest upload _ waits uploads =>
        refine ⟨upload, by simp, uploads, ?_⟩
        rw [← List.cons_append] at goesOn
        rw [goesOn.output_before (waits.cons List.not_mem_nil)]
        exact stands
    | kept isComposition _ =>
        rw [isFlat] at isComposition
        cases isComposition
  · intro isComposition
    cases delivered with
    | uploaded isFlat _ _ =>
        rw [isComposition] at isFlat
        cases isFlat
    | kept _ leaves =>
        obtain ⟨stays, along⟩ :=
          goesOn.output_stays (leaves.cons List.not_mem_nil)
        exact ⟨stays.trans stands, fun event member =>
          (along event member).trans stands⟩

/-- A job that is done has produced its result, and a composition offers it. -/
theorem produces_of_done
    (accepted : isJobId submission.jobId = true)
    (canonical : server.tempDirectory.Canonical)
    (owned : start.registry.Owned submission.jobId job)
    (notDone : job.status ≠ .done)
    (run :
      Run (Scene.outputSurroundings server submission) start
        (submission.run server) events outcome final)
    (found : final.registry.find? submission.jobId = some record)
    (isDone : record.status = .done) :
    submission.Produces server events ∧
      (submission.request.isComposition = true → record.Offers server) := by
  have orders := (submission.run_orders canonical).of_run run
  have tellsOf :
      TellsOf submission.jobId (events.map (Event.viewed Scene.registry)) := by
    intro event member
    obtain ⟨seen, isSeen, rfl⟩ := List.mem_map.mp member
    exact TellsOf.of_orders orders seen isSeen
  obtain ⟨event, member, finished⟩ :=
    owned.finished_of_run notDone
      (run.viewed (Scene.outputSurroundings_views server submission)) tellsOf
      found isDone
  obtain ⟨seen, isSeen, rfl⟩ := List.mem_map.mp member
  obtain ⟨update, old, touched, isTell, tellsDone, ofJob, isRecord⟩ := finished
  have isFinish : seen.call.isFinish = true := by
    rw [show seen.call = .tell update from isTell]
    simp [Call.isFinish, tellsDone]
  have produces :=
    produces_of_run accepted canonical run ⟨seen, isSeen, isFinish⟩
  refine ⟨produces, fun isComposition => ?_⟩
  obtain ⟨metadata, isOffer⟩ :=
    produces.offered isComposition seen isSeen isFinish
  have same : update = submission.offer server metadata := by
    simpa using isTell.symm.trans isOffer
  subst same
  rw [isRecord]
  exact .of_updated ofJob metadata touched

end Runs

/-- What is not removed with others stays because of a name that no file can
have. -/
theorem exists_unusable_of_not_removed
    {path : Path}
    {paths : List Path}
    (member : path ∈ paths)
    (stays : path ∉ paths.takeWhile Path.isUsable) :
    ∃ other ∈ paths, other.isUsable = false := by
  by_contra noneUnusable
  apply stays
  rw [List.takeWhile_eq_self_iff.mpr]
  · exact member
  · intro other isOther
    by_contra unusable
    exact noneUnusable ⟨other, isOther, Bool.eq_false_iff.mpr unusable⟩

section WholeRun

variable {server : RenderServer} {submission : Submission}
  {start final : Scene} {events : List (Event Scene)} {outcome : Outcome Unit}
  {queued : Job}

/-- A job that does not track its output does not touch it. -/
theorem untouched_of_untracked
    {preparation removal : Event Scene}
    {working settling sending : List (Event Scene)}
    {workspace : Workspace}
    (prepares : preparation.call.targets = [])
    (tracks :
      ∀ event ∈ working, ∀ path ∈ event.call.targets, path ∈ workspace.files)
    (settles : ∀ event ∈ settling, event.call.isTell = true)
    (removes : removal.call = .removeFiles workspace.disposable)
    (sends : ∀ event ∈ sending, event.call.isSending = true)
    (untracked : server.outputOf submission.jobId ∉ workspace.files) :
    submission.Untouched server
      (preparation :: working ++ settling ++ removal :: sending) := by
  refine .append (.append (.cons ?_ ?_) (.of_isTell settles))
    (.cons ?_ (.of_isSending sends))
  · rw [prepares]
    exact List.not_mem_nil
  · intro event member isTarget
    exact untracked (tracks event member _ isTarget)
  · rw [removes]
    exact fun isTarget => untracked (Workspace.mem_disposable_iff.mp isTarget).1

/-- Whatever is answered, a run leaves the output in one of these ways, and the
job its record. -/
theorem leavesOutput_of_run
    (accepted : isJobId submission.jobId = true)
    (canonical : server.tempDirectory.Canonical)
    (owned : start.registry.Owned submission.jobId queued)
    (running : queued.Running)
    (isQueued : queued.status = .queued)
    (run :
      Run (Scene.outputSurroundings server submission) start
        (submission.run server) events outcome final) :
    ∃ record,
      final.registry.Owned submission.jobId record ∧
      submission.LeavesOutput server start events final record := by
  have leftAlone (untouched : submission.Untouched server events) record :
      submission.LeavesOutput server start events final record :=
    .untouched untouched (run.output_stays untouched).1
  have phases := run_phases run
  cases phases with
  | @unprepared before _ failure others prepared =>
      have ownedBefore := owned.meanwhile others.1
      have sameRegistry : final.registry = before.registry := prepared.1
      rw [← sameRegistry] at ownedBefore
      refine ⟨queued, ownedBefore, leftAlone ?_ _⟩
      exact .cons List.not_mem_nil (by simp [Untouched])
  | @cleaned before ready worked settled uncleaned cleaned _ working settling
      sending ended files notice removed _ others prepared works settles
      othersAgain removes sends =>
      have ownedReady := owned.meanwhile others.1
      have sameRegistry : ready.registry = before.registry := prepared.1
      rw [← sameRegistry] at ownedReady
      obtain ⟨record, ownedAtEnd, kept⟩ :=
        ending_course (Scene.outputSurroundings_views server submission)
          canonical ownedReady running isQueued works settles othersAgain
          removes sends
      refine ⟨record, ownedAtEnd, ?_⟩
      by_cases isOffered :
          submission.request.isComposition = true ∧ record.status = .done
      · exact .offered <|
          (produces_of_done accepted canonical owned running.notDone run
            ownedAtEnd.found isOffered.2).2 isOffered.1
      rw [if_neg isOffered] at kept
      have sendsOnly : submission.Untouched server sending :=
        .of_isSending ((sendNotice_limited _ _ _ _).of_run sends)
      by_cases isTracked :
          server.outputOf submission.jobId ∈ files.workspace.files
      · have isPlanned :
            server.outputOf submission.jobId ∈ files.workspace.disposable :=
          Workspace.mem_disposable_iff.mpr ⟨isTracked, by simp [kept]⟩
        by_cases isRemoved :
            server.outputOf submission.jobId ∈
              files.workspace.disposable.takeWhile Path.isUsable
        · have gone :
              cleaned.disk.fileAt? (server.outputOf submission.jobId) = _ :=
            removes.2
          rw [if_pos isRemoved] at gone
          exact .removed ((sends.output_stays sendsOnly).1.trans gone)
        · exact .stopped (List.mem_append_right _ List.mem_cons_self) rfl
            isPlanned (exists_unusable_of_not_removed isPlanned isRemoved)
      · obtain ⟨tracked, _⟩ :=
          (work_follows server submission canonical).of_run works
        exact leftAlone
          (untouched_of_untracked rfl tracked.targets_mem
            ((settle_limited _ _).of_run settles) rfl
            ((sendNotice_limited _ _ _ _).of_run sends) isTracked)
          record

end WholeRun

end Submission

end Montage
