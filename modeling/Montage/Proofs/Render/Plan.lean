import Montage.Job.Registry
import Montage.Proofs.Render.Making

namespace Montage

/-!
# Plans of jobs

A job follows a plan: it makes something, tells how far it has come, and goes
on, until it tells that it is done together with its results. Jobs of both kinds
do this, by plans of their own.
-/

namespace Submission

/-- The remote assets that a job may fetch. -/
def references (submission : Submission) : List AssetReference :=
  let request := submission.request
  if request.isComposition then
    segmentReferences request.entries
  else
    (request.videoUrl.toList.map fun address =>
      { address, kind := .video }) ++
    (request.audioUrl.toList.map fun address =>
      { address, kind := .audio }) ++
    furtherReferences request

/-- The stations of a job that does not fail. -/
def plan (submission : Submission) : List JobStatus :=
  if submission.request.isComposition then
    [.downloading, .rendering, .finalizing, .done]
  else
    [.downloading, .rendering, .uploading, .done]

end Submission

/-- Fields that a record without results takes over as its results, besides
the path of its output. -/
structure Recordable (fields results : Fields) : Prop where
  checked : Registry.checkFields fields = .ok ()
  recorded :
    ∀ job : Job,
      job.results = [] →
      ∃ outputPath,
        job.setResults fields = (.ok (), { job with results, outputPath })

/-- The address of an upload can be recorded. -/
theorem recordable_upload (address : String) :
    Recordable [("video_url", .text address)]
      [("video_url", .text address)] where
  checked := rfl
  recorded := by
    intro job empty
    refine ⟨job.outputPath, ?_⟩
    simp [Job.setResults, Job.setResult, Job.resultNames, setField, empty]

/-- The address of a download, its facts and its file can be recorded. -/
theorem recordable_offer
    (address output : String)
    (metadata : Json) :
    Recordable
      [("download_url", .text address), ("metadata", metadata),
        ("output_path", .text output)]
      [("download_url", .text address), ("metadata", metadata)] where
  checked := rfl
  recorded := by
    intro job empty
    refine ⟨.text output, ?_⟩
    simp [Job.setResults, Job.setResult, Job.resultNames, setField, empty]

/-- A program of a job follows a plan: it reaches its stations in order, keeps
account in between, and is done with results that can be recorded. -/
inductive Follows
    (submission : Submission)
    (references : List AssetReference)
    (offers : Bool) :
    List JobStatus → JobFiles → JobProgram Fields → Prop
  | making
      {α : Type}
      {plan : List JobStatus}
      {files : JobFiles}
      {expected : α → JobFiles → Prop}
      {prepare : JobProgram α}
      {rest : α → JobProgram Fields}
      (accounts : JobProgram.Accounts references expected files prepare)
      (goesOn :
        ∀ value after,
          files.workspace.Extends references after.workspace →
          expected value after →
          Follows submission references offers plan after (rest value)) :
      Follows submission references offers plan files (prepare >>= rest)
  | reaching
      {status : JobStatus}
      {progress : Int}
      {plan : List JobStatus}
      {files : JobFiles}
      {rest : Unit → JobProgram Fields}
      (early : status.isFinal = false)
      (goesOn :
        Follows submission references offers plan files (rest ())) :
      Follows submission references offers (status :: plan) files
        (submission.reach status progress [] >>= rest)
  | delivered
      {files : JobFiles}
      {results : Fields}
      (delivers : offers = false)
      (noOutput : ∀ value, ("output_path", value) ∉ results)
      (recordable : Recordable results results) :
      Follows submission references offers [.done] files
        (submission.reach .done 100 results >>= fun _ =>
          pure (submission.successNotice results))
  | offered
      {files : JobFiles}
      {fields results : Fields}
      {output : Path}
      (isOffer : offers = true)
      (isOutput : output = files.workspace.named "_output.mp4")
      (tracked : output ∈ files.workspace.files)
      (recordable : Recordable fields results) :
      Follows submission references offers [.done] files
        (JobProgram.keep output >>= fun _ =>
          submission.reach .done 100 fields >>= fun _ =>
            pure (submission.successNotice results))

namespace Submission

/-- A flat job follows its plan. -/
theorem flatWork_follows
    (server : RenderServer)
    {submission : Submission}
    (isFlat : submission.request.isComposition = false)
    {files : JobFiles}
    (canonical : files.workspace.root.Canonical) :
    Follows submission submission.references false
      [.downloading, .rendering, .uploading, .done] files
      (flatWork server submission) := by
  apply Follows.reaching rfl
  apply Follows.making (ensureFreeSpace_accounts _)
  intro _ spaced extendedBySpace _
  apply Follows.making (givenAddress_accounts _)
  intro video given extendedByVideo videoGiven
  apply Follows.making (givenAddress_accounts _)
  intro sound heard extendedBySound soundGiven
  have areReferred :
      ∀ reference ∈
          [({ address := video, kind := .video } : AssetReference),
            { address := sound, kind := .audio }] ++
            furtherReferences submission.request,
        reference ∈ submission.references := by
    intro reference member
    simpa [references, isFlat, videoGiven, soundGiven] using member
  apply Follows.making (fetchTogether_accounts areReferred _)
  intro assets fetched extendedByAssets _
  apply Follows.making (flatSource_accounts _ _ _ _ _)
  intro source sourced extendedBySource _
  apply Follows.reaching rfl
  apply Follows.making (source.compile_accounts _)
  intro graph compiled extendedByGraph _
  have extended :=
    extendedBySpace.trans <| extendedByVideo.trans <| extendedBySound.trans <|
      extendedByAssets.trans <| extendedBySource.trans extendedByGraph
  apply Follows.making
    (renderOutput_accounts (extended.root ▸ canonical) _ _ _)
  intro output after _ _
  apply Follows.reaching rfl
  have uploaded :
      JobProgram.Accounts submission.references Anything after
        (JobProgram.attempt
          (uploadResult output submission.request.projectId
            submission.jobId)) :=
    .attempt (uploadResult_limited _ _ _) fun _ => trivial
  apply Follows.making uploaded
  intro address last _ _
  exact .delivered rfl (by simp) (recordable_upload address)

/-- A composition follows its plan. -/
theorem compositionWork_follows
    (server : RenderServer)
    {submission : Submission}
    (isComposition : submission.request.isComposition = true)
    {files : JobFiles}
    (canonical : files.workspace.root.Canonical) :
    Follows submission submission.references true
      [.downloading, .rendering, .finalizing, .done] files
      (compositionWork server submission) := by
  apply Follows.reaching rfl
  apply Follows.making (ensureFreeSpace_accounts _)
  intro _ spaced extendedBySpace _
  have areReferred :
      ∀ reference ∈ segmentReferences submission.request.entries,
        reference ∈ submission.references := by
    intro reference member
    simpa [references, isComposition] using member
  apply Follows.making (fetchTogether_accounts areReferred _)
  intro assets fetched extendedByAssets _
  apply Follows.making (frameSize_accounts _ _ _)
  intro size sized extendedBySize _
  apply Follows.reaching rfl
  apply Follows.making (Composition.compile_accounts _ _)
  intro graph compiled extendedByGraph _
  have extended :=
    extendedBySpace.trans <| extendedByAssets.trans <|
      extendedBySize.trans extendedByGraph
  apply Follows.making
    (renderOutput_accounts (extended.root ▸ canonical) _ _ _)
  rintro output after _ ⟨isOutput, tracked⟩
  apply Follows.reaching rfl
  have offer :
      JobProgram.Accounts submission.references
        (fun _ last =>
          output = last.workspace.named "_output.mp4" ∧
            output ∈ last.workspace.files)
        after
        (JobProgram.attempt
          (offerResult server.publicBase server.probeProgram output)) :=
    .attempt (offerResult_limited _ _ _) fun _ => ⟨isOutput, tracked⟩
  apply Follows.making offer
  rintro offered last _ ⟨stillOutput, stillTracked⟩
  exact .offered rfl stillOutput stillTracked
    (recordable_offer offered.1 output.toText offered.2)

/-- Every job follows the plan of its kind. -/
theorem work_follows
    (server : RenderServer)
    (submission : Submission)
    {files : JobFiles}
    (canonical : files.workspace.root.Canonical) :
    Follows submission submission.references submission.request.isComposition
      submission.plan files (work server submission) := by
  unfold work plan
  cases kind : submission.request.isComposition with
  | true => exact compositionWork_follows server kind canonical
  | false => exact flatWork_follows server kind canonical

end Submission

/-! ## Runs of jobs that follow a plan -/

section Runs

variable {State : Type} {surroundings : Surroundings State}
  {state final : State} {events : List (Event State)}
  {submission : Submission} {files after : JobFiles}

/-- To reach a station is to tell the registry of it. -/
theorem Submission.reach_cases
    {status : JobStatus}
    {progress : Int}
    {fields : Fields}
    {outcome : Outcome Unit}
    (run :
      Run surroundings state
        ((submission.reach status progress fields).start files) events
        (outcome, after) final) :
    after = files ∧
      Run surroundings state (submission.tell status (some progress) fields)
        events outcome final := by
  unfold reach at run
  rw [JobProgram.start_attempt] at run
  obtain ⟨first, second, told, middle, shape, earlier, later⟩ :=
    run.andThen_cases
  cases later
  rw [List.append_nil] at shape
  subst shape
  exact ⟨rfl, earlier⟩

/-- To tell the registry is one call. -/
theorem Submission.tell_limited
    (status : JobStatus)
    (progress : Option Int)
    (fields : Fields) :
    (submission.tell status progress fields).Limited
      fun call => call.isTell = true :=
  .perform rfl

/-- Whether a call belongs to the work of a job: to the making of its result,
or to the telling how far it has come. -/
def Call.isWork (call : Call) : Prop :=
  call.isQuiet = true ∨ call.isTell = true

theorem Tracked.of_isTell
    {references : List AssetReference}
    {workspace : Workspace}
    (tells : ∀ event ∈ events, event.call.isTell = true) :
    Tracked references workspace events workspace := by
  induction events with
  | nil => exact .ended workspace
  | cons event rest inductionHypothesis =>
      have isTell := tells event List.mem_cons_self
      refine .call ?_ (inductionHypothesis fun later member =>
        tells later (List.mem_cons_of_mem event member))
      intro path isTarget
      cases shape : event.call with
      | tell update =>
          rw [shape] at isTarget
          cases isTarget
      | _ =>
          rw [shape] at isTell
          cases isTell

/-- To be done is to tell the registry of it. -/
theorem Submission.finish_of_run
    {fields notice : Fields}
    {outcome : Outcome Fields}
    (run :
      Run surroundings state
        ((submission.reach .done 100 fields >>= fun _ =>
          (pure notice : JobProgram Fields)).start files)
        events (outcome, after) final) :
    after = files ∧ ∀ event ∈ events, event.call.isTell = true := by
  rcases run.bind_cases with
    ⟨failure, isError, reached⟩ |
    ⟨first, second, _, between, middle, shape, reached, later⟩
  · obtain ⟨sameFiles, told⟩ := reach_cases reached
    exact ⟨sameFiles, (tell_limited _ _ _).of_run told⟩
  · obtain ⟨sameFiles, told⟩ := reach_cases reached
    rw [JobProgram.start_pure] at later
    cases later
    rw [List.append_nil] at shape
    subst shape
    exact ⟨sameFiles, (tell_limited _ _ _).of_run told⟩

/-- A job that follows a plan keeps account while it works. -/
theorem Follows.of_run
    {references : List AssetReference}
    {offers : Bool}
    {plan : List JobStatus}
    {program : JobProgram Fields}
    {outcome : Outcome Fields}
    (follows : Follows submission references offers plan files program)
    (run :
      Run surroundings state (program.start files) events (outcome, after)
        final) :
    Tracked references files.workspace events after.workspace ∧
      ∀ event ∈ events, event.call.isWork := by
  induction follows generalizing state events with
  | making accounts _ inductionHypothesis =>
      rcases run.bind_cases with
        ⟨failure, isError, prepared⟩ |
        ⟨first, second, value, between, middle, shape, prepared, later⟩
      · have result := accounts.of_run prepared
        exact ⟨result.tracked, fun event member =>
          Or.inl (result.quiet event member)⟩
      · have result := accounts.of_run prepared
        obtain ⟨tracked, works⟩ :=
          inductionHypothesis value between result.extended
            (result.isExpected value rfl) later
        subst shape
        refine ⟨result.tracked.append tracked, ?_⟩
        intro event member
        rcases List.mem_append.mp member with isEarlier | isLater
        · exact Or.inl (result.quiet event isEarlier)
        · exact works event isLater
  | reaching early _ inductionHypothesis =>
      rcases run.bind_cases with
        ⟨failure, isError, reached⟩ |
        ⟨first, second, _, between, middle, shape, reached, later⟩
      · obtain ⟨sameFiles, told⟩ := Submission.reach_cases reached
        have tells := (Submission.tell_limited _ _ _).of_run told
        subst sameFiles
        exact ⟨.of_isTell tells, fun event member =>
          Or.inr (tells event member)⟩
      · obtain ⟨sameFiles, told⟩ := Submission.reach_cases reached
        have tells := (Submission.tell_limited _ _ _).of_run told
        subst sameFiles
        obtain ⟨tracked, works⟩ := inductionHypothesis later
        subst shape
        refine ⟨Tracked.append (.of_isTell tells) tracked, ?_⟩
        intro event member
        rcases List.mem_append.mp member with isEarlier | isLater
        · exact Or.inr (tells event isEarlier)
        · exact works event isLater
  | delivered delivers noOutput recordable =>
      obtain ⟨sameFiles, tells⟩ := Submission.finish_of_run run
      subst sameFiles
      exact ⟨.of_isTell tells, fun event member =>
        Or.inr (tells event member)⟩
  | @offered files fields results output isOffer isOutput tracked
      recordable =>
      rw [JobProgram.start_bind, JobProgram.start_keep] at run
      obtain ⟨sameFiles, tells⟩ := Submission.finish_of_run run
      subst sameFiles
      exact ⟨.account (files.workspace.keep_extends output)
          (.of_isTell tells),
        fun event member => Or.inr (tells event member)⟩

end Runs

end Montage
