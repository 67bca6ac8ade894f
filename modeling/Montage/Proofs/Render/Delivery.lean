import Montage.Proofs.Render.Unrendered

namespace Montage

/-!
# From the encoder to the client

A job that tells that it is done has run the encoder once, on its own output,
after nothing else that it did was done to the output; and nothing is done to
the output from then on, until a flat job has uploaded it, and as long as a
composition runs.
-/

/-- Whether a call tells that a job is done. -/
def Call.isFinish : Call → Bool
  | .tell update => update.status == .done
  | _ => false

theorem Call.isFinish_of_not_isTell
    {call : Call}
    (tellsNot : call.isTell = false) :
    call.isFinish = false := by
  cases call with
  | tell update => cases tellsNot
  | _ => rfl

theorem Call.isFinish_of_isQuiet
    {call : Call}
    (quiet : call.isQuiet = true) :
    call.isFinish = false :=
  isFinish_of_not_isTell (isTell_of_isQuiet quiet)

/-- To tell the registry writes nothing. -/
theorem Call.targets_of_isTell
    {call : Call}
    (isTell : call.isTell = true) :
    call.targets = [] := by
  cases call with
  | tell update => rfl
  | _ => cases isTell

namespace Submission

variable {State : Type} {server : RenderServer} {submission : Submission}

/-- An event is a success of the encoder with the output of a job. -/
structure Renders
    (server : RenderServer)
    (submission : Submission)
    (rendering : Event State) :
    Prop where
  succeeds :
    ∃ before after graph options result,
      rendering = {
        before
        call :=
          .encode
            (server.encoder.command graph options
              (server.outputOf submission.jobId).toText)
        answer := .ok result
        after } ∧
      result.code = 0

/-- An event is a successful upload of the output of a job. -/
structure Uploads
    (server : RenderServer)
    (submission : Submission)
    (upload : Event State) :
    Prop where
  succeeds :
    ∃ before after address,
      upload = {
        before
        call :=
          .upload (server.outputOf submission.jobId)
            (resultKey submission.request.projectId submission.jobId)
            "video/mp4"
        answer := .ok address
        after }

/-- Events leave the output of a job alone. -/
def Untouched
    (server : RenderServer)
    (submission : Submission)
    (events : List (Event State)) :
    Prop :=
  ∀ event ∈ events, server.outputOf submission.jobId ∉ event.call.targets

theorem Untouched.append
    {first second : List (Event State)}
    (earlier : submission.Untouched server first)
    (later : submission.Untouched server second) :
    submission.Untouched server (first ++ second) := by
  intro event member
  rcases List.mem_append.mp member with inFirst | inSecond
  · exact earlier event inFirst
  · exact later event inSecond

theorem Untouched.cons
    {event : Event State}
    {events : List (Event State)}
    (here : server.outputOf submission.jobId ∉ event.call.targets)
    (later : submission.Untouched server events) :
    submission.Untouched server (event :: events) :=
  List.forall_mem_cons.mpr ⟨here, later⟩

theorem Untouched.of_isTell
    {events : List (Event State)}
    (tells : ∀ event ∈ events, event.call.isTell = true) :
    submission.Untouched server events := by
  intro event member
  simp [Call.targets_of_isTell (tells event member)]

section Runs

variable {surroundings : Surroundings State} {state final : State}
  {events : List (Event State)} {files after : JobFiles}
  {outcome : Outcome Fields}

/-- A job that tells in the end that it is done does not fail before it. -/
theorem goes_on_of_finish
    {α : Type}
    {prepare : JobProgram α}
    {rest : α → JobProgram Fields}
    (silent :
      ∀ {events : List (Event State)} {outcome : Outcome α}
        {after : JobFiles} {middle : State},
        Run surroundings state (prepare.start files) events (outcome, after)
          middle →
        ∀ event ∈ events, event.call.isFinish = false)
    (run :
      Run surroundings state ((prepare >>= rest).start files) events
        (outcome, after) final)
    (finishes : ∃ event ∈ events, event.call.isFinish = true) :
    ∃ first second value between middle,
      events = first ++ second ∧
      Run surroundings state (prepare.start files) first (.ok value, between)
        middle ∧
      Run surroundings middle ((rest value).start between) second
        (outcome, after) final ∧
      ∃ event ∈ second, event.call.isFinish = true := by
  obtain ⟨event, member, isFinish⟩ := finishes
  rcases run.bind_cases with
    ⟨failure, _, failed⟩ |
    ⟨first, second, value, between, middle, shape, earlier, later⟩
  · rw [silent failed event member] at isFinish
    cases isFinish
  · refine ⟨first, second, value, between, middle, shape, earlier, later,
      event, ?_, isFinish⟩
    rw [shape] at member
    rcases List.mem_append.mp member with inFirst | inSecond
    · rw [silent earlier event inFirst] at isFinish
      cases isFinish
    · exact inSecond

/-- To reach a station is one call, which tells of this station. -/
theorem reach_events
    {status : JobStatus}
    {progress : Int}
    {fields : Fields}
    {told : Outcome Unit}
    (run :
      Run surroundings state
        ((submission.reach status progress fields).start files) events
        (told, after) final) :
    after = files ∧
      ∀ event ∈ events,
        event.call =
          .tell {
            jobId := submission.jobId
            status
            progress := some progress
            fields } := by
  obtain ⟨sameFiles, tells⟩ := reach_cases run
  have limited :
      (submission.tell status (some progress) fields).Limited fun call =>
        call =
          .tell {
            jobId := submission.jobId
            status
            progress := some progress
            fields } :=
    .perform rfl
  exact ⟨sameFiles, limited.of_run tells⟩

/-- To reach a station between is not to tell that the job is done. -/
theorem silent_of_reach
    {status : JobStatus}
    (early : status.isFinal = false)
    {progress : Int}
    {fields : Fields}
    {told : Outcome Unit}
    (run :
      Run surroundings state
        ((submission.reach status progress fields).start files) events
        (told, after) final) :
    ∀ event ∈ events, event.call.isFinish = false := by
  intro event member
  rw [(reach_events run).2 event member]
  cases status <;> first | rfl | cases early

end Runs

/-! ## Before the encoder runs -/

/-- A job goes on, without a touch of its output, until it arrives at something
else. -/
inductive Approaches
    (server : RenderServer)
    (submission : Submission)
    (destination : JobProgram Fields → Prop) :
    JobFiles → JobProgram Fields → Prop
  | arrived
      {files : JobFiles}
      {program : JobProgram Fields}
      (isArrived : destination program) :
      Approaches server submission destination files program
  | making
      {α : Type}
      {references : List AssetReference}
      {files : JobFiles}
      {expected : α → JobFiles → Prop}
      {prepare : JobProgram α}
      {rest : α → JobProgram Fields}
      (accounts : JobProgram.Accounts references expected files prepare)
      (keeps : prepare.Keeps (submission.Unreserved server))
      (goesOn :
        ∀ value after,
          Approaches server submission destination after (rest value)) :
      Approaches server submission destination files (prepare >>= rest)
  | reaching
      {status : JobStatus}
      {progress : Int}
      {files : JobFiles}
      {rest : Unit → JobProgram Fields}
      (early : status.isFinal = false)
      (goesOn :
        Approaches server submission destination files (rest ())) :
      Approaches server submission destination files
        (submission.reach status progress [] >>= rest)

/-- A job that is done has arrived, and has not touched its output before. -/
theorem Approaches.of_run
    {destination : JobProgram Fields → Prop}
    {files after : JobFiles}
    {program : JobProgram Fields}
    {surroundings : Surroundings State}
    {state final : State}
    {events : List (Event State)}
    {outcome : Outcome Fields}
    (approaches :
      Approaches server submission destination files program)
    (unreserved : submission.Unreserved server files)
    (run :
      Run surroundings state (program.start files) events (outcome, after)
        final)
    (finishes : ∃ event ∈ events, event.call.isFinish = true) :
    ∃ first second between middle reached,
      events = first ++ second ∧
      submission.Untouched server first ∧
      (∀ event ∈ first, event.call.isFinish = false) ∧
      destination reached ∧
      submission.Unreserved server between ∧
      Run surroundings middle (reached.start between) second
        (outcome, after) final ∧
      ∃ event ∈ second, event.call.isFinish = true := by
  induction approaches generalizing state events with
  | arrived isArrived =>
      exact ⟨[], events, _, state, _, rfl, by simp [Untouched], by simp,
        isArrived, unreserved, run, finishes⟩
  | making accounts keeps _ inductionHypothesis =>
      obtain ⟨earlier, others, value, between, middle, shape, prepared, rest,
          finishesLater⟩ :=
        goes_on_of_finish
          (fun made event member =>
            Call.isFinish_of_isQuiet
              ((accounts.of_run made).quiet event member))
          run finishes
      have stillUnreserved : submission.Unreserved server between :=
        (keeps _ unreserved).of_run prepared
      obtain ⟨first, second, found⟩ :=
        inductionHypothesis value between stillUnreserved rest finishesLater
      obtain ⟨account, arrival, reached, laterShape, untouched, silent,
        found⟩ := found
      have made := accounts.of_run prepared
      refine ⟨earlier ++ first, second, account, arrival, reached, ?_, ?_, ?_,
        found⟩
      · rw [shape, laterShape, List.append_assoc]
      · refine .append ?_ untouched
        intro event member isTarget
        exact stillUnreserved.lacks
          (made.tracked.targets_mem event member _ isTarget)
      · intro event member
        rcases List.mem_append.mp member with isEarlier | isLater
        · exact Call.isFinish_of_isQuiet (made.quiet event isEarlier)
        · exact silent event isLater
  | reaching early _ inductionHypothesis =>
      obtain ⟨earlier, others, value, between, middle, shape, reaches, rest,
          finishesLater⟩ :=
        goes_on_of_finish (silent_of_reach early) run finishes
      obtain ⟨sameFiles, tells⟩ := reach_events reaches
      subst sameFiles
      obtain ⟨first, second, account, arrival, reached, laterShape, untouched,
          silent, found⟩ :=
        inductionHypothesis unreserved rest finishesLater
      refine ⟨earlier ++ first, second, account, arrival, reached, ?_, ?_, ?_,
        found⟩
      · rw [shape, laterShape, List.append_assoc]
      · refine .append (.of_isTell fun event member => ?_) untouched
        rw [tells event member]
        rfl
      · intro event member
        rcases List.mem_append.mp member with isEarlier | isLater
        · exact silent_of_reach early reaches event isEarlier
        · exact silent event isLater

/-- What a flat job does when its graph is made. -/
def publishes
    (server : RenderServer)
    (submission : Submission)
    (program : JobProgram Fields) :
    Prop :=
  ∃ graph options,
    program = do
      let output ← renderOutput server graph options
      submission.reach .uploading 80 []
      let address ←
        JobProgram.attempt
          (uploadResult output submission.request.projectId submission.jobId)
      submission.reach .done 100 [("video_url", .text address)]
      pure (submission.successNotice [("video_url", .text address)])

/-- What a composition does when its graph is made. -/
def offers
    (server : RenderServer)
    (submission : Submission)
    (program : JobProgram Fields) :
    Prop :=
  ∃ graph options,
    program = do
      let output ← renderOutput server graph options
      submission.reach .finalizing 80 []
      let offer ←
        JobProgram.attempt
          (offerResult server.publicBase server.probeProgram output)
      JobProgram.keep output
      submission.reach .done 100
        ([("download_url", .text offer.1), ("metadata", offer.2)] ++
          [("output_path", .text output.toText)])
      pure (submission.successNotice
        [("download_url", .text offer.1), ("metadata", offer.2)])

theorem flatWork_approaches
    (accepted : isJobId submission.jobId = true)
    (files : JobFiles) :
    Approaches server submission (submission.publishes server) files
      (flatWork server submission) := by
  refine .reaching rfl ?_
  refine .making (ensureFreeSpace_accounts _ : JobProgram.Accounts [] _ _ _)
    (ensureFreeSpace_keeps _) fun _ spaced => ?_
  refine .making (givenAddress_accounts _ : JobProgram.Accounts [] _ _ _)
    (givenAddress_keeps _) fun video given => ?_
  refine .making (givenAddress_accounts _ : JobProgram.Accounts [] _ _ _)
    (givenAddress_keeps _) fun sound heard => ?_
  refine .making (fetchTogether_accounts (fun _ member => member) _)
    (fetchTogether_unreserved accepted _ _) fun assets fetched => ?_
  refine .making
    (flatSource_accounts _ _ _ _ _ : JobProgram.Accounts [] _ _ _)
    (flatSource_keeps _ _ _ _ _) fun source sourced => ?_
  refine .reaching rfl ?_
  refine .making (source.compile_accounts _ : JobProgram.Accounts [] _ _ _)
    (compileFlat_unreserved accepted _ _) fun graph compiled => ?_
  exact .arrived ⟨graph, _, rfl⟩

theorem compositionWork_approaches
    (accepted : isJobId submission.jobId = true)
    (files : JobFiles) :
    Approaches server submission (submission.offers server) files
      (compositionWork server submission) := by
  refine .reaching rfl ?_
  refine .making (ensureFreeSpace_accounts _ : JobProgram.Accounts [] _ _ _)
    (ensureFreeSpace_keeps _) fun _ spaced => ?_
  refine .making (fetchTogether_accounts (fun _ member => member) _)
    (fetchTogether_unreserved accepted _ _) fun assets fetched => ?_
  refine .making (frameSize_accounts _ _ _ : JobProgram.Accounts [] _ _ _)
    (frameSize_keeps _ _ _) fun size sized => ?_
  refine .reaching rfl ?_
  refine .making
    (Composition.compile_accounts _ _ : JobProgram.Accounts [] _ _ _)
    (compileComposition_unreserved accepted _ _) fun graph compiled => ?_
  exact .arrived ⟨graph, _, rfl⟩

/-! ## From the encoder on -/

/-- The output of a job is looked for, and there. -/
structure Finds
    (server : RenderServer)
    (submission : Submission)
    (look : Event State) :
    Prop where
  succeeds :
    ∃ before after,
      look = {
        before
        call := .holds (server.outputOf submission.jobId)
        answer := .ok true
        after }

section Endings

variable {surroundings : Surroundings State} {state final : State}
  {events : List (Event State)} {files after : JobFiles}
  {outcome : Outcome Fields}

/-- To render is to run the encoder and to find the output. -/
theorem renderOutput_of_ok
    {graph : Graph}
    {options : Option OutputOptions}
    {output : Path}
    (unreserved : submission.Unreserved server files)
    (run :
      Run surroundings state ((renderOutput server graph options).start files)
        events (.ok output, after) final) :
    output = server.outputOf submission.jobId ∧
    ∃ rendering look,
      events = [rendering, look] ∧
      submission.Renders server rendering ∧
      submission.Finds server look := by
  have isOutput :
      files.workspace.named "_output.mp4" =
        server.outputOf submission.jobId := by
    rw [Workspace.named, unreserved.root, unreserved.jobId,
      RenderServer.outputOf]
  rw [start_renderOutput, isOutput] at run
  obtain ⟨first, second, rendered, middle, shape, renders, ends⟩ :=
    run.andThen_cases
  subst shape
  cases rendered with
  | error failure => cases ends
  | ok _ =>
      cases ends
      refine ⟨rfl, ?_⟩
      rw [List.append_nil]
      unfold Encoder.render at renders
      split at renders
      case isFalse => cases renders
      cases renders with
      | @step _ before between _ _ _ answer _ _ _ encoded rest =>
          cases answer with
          | error failure => cases rest
          | ok result =>
              dsimp only at rest
              by_cases failed : result.code ≠ 0
              · rw [if_pos failed] at rest
                cases rest
              · rw [if_neg failed] at rest
                cases rest with
                | @step _ standing seen _ _ _ found _ _ _ looked last =>
                    cases found with
                    | error failure => cases last
                    | ok isThere =>
                        cases isThere with
                        | false => cases last
                        | true =>
                            cases last
                            exact ⟨_, _, rfl,
                              ⟨_, _, _, _, _, rfl, not_not.mp failed⟩,
                              ⟨_, _, rfl⟩⟩

/-- To upload the output is one call. -/
theorem uploadResult_of_ok
    {address : String}
    (run :
      Run surroundings state
        ((JobProgram.attempt
          (uploadResult (server.outputOf submission.jobId)
            submission.request.projectId submission.jobId)).start files)
        events (.ok address, after) final) :
    ∃ upload, events = [upload] ∧ submission.Uploads server upload := by
  rw [JobProgram.start_attempt] at run
  obtain ⟨first, second, uploaded, middle, shape, uploads, ends⟩ :=
    run.andThen_cases
  cases ends
  rw [List.append_nil] at shape
  subst shape
  generalize isOk : (Except.ok address : Outcome String) = uploaded at uploads
  cases uploads with
  | @step _ before between _ _ _ answer _ _ _ answered rest =>
      cases rest
      cases answer with
      | error failure => cases isOk
      | ok given => exact ⟨_, rfl, ⟨_, _, _, rfl⟩⟩

/-- A program that makes something does not tell that the job is done. -/
theorem silent_of_accounts
    {α : Type}
    {references : List AssetReference}
    {expected : α → JobFiles → Prop}
    {prepare : JobProgram α}
    {made : Outcome α}
    (accounts : JobProgram.Accounts references expected files prepare)
    (run :
      Run surroundings state (prepare.start files) events (made, after)
        final) :
    ∀ event ∈ events, event.call.isFinish = false :=
  fun event member =>
    Call.isFinish_of_isQuiet ((accounts.of_run run).quiet event member)

/-- What a job does to render, if it tells in the end that it is done. -/
theorem renders_of_run
    {graph : Graph}
    {options : Option OutputOptions}
    {rest : Path → JobProgram Fields}
    (canonical : server.tempDirectory.Canonical)
    (unreserved : submission.Unreserved server files)
    (run :
      Run surroundings state
        ((renderOutput server graph options >>= rest).start files) events
        (outcome, after) final)
    (finishes : ∃ event ∈ events, event.call.isFinish = true) :
    ∃ rendering look later between middle,
      events = rendering :: look :: later ∧
      submission.Renders server rendering ∧
      submission.Finds server look ∧
      Run surroundings middle
        ((rest (server.outputOf submission.jobId)).start between) later
        (outcome, after) final ∧
      ∃ event ∈ later, event.call.isFinish = true := by
  have accounts :
      JobProgram.Accounts [] _ files (renderOutput server graph options) :=
    renderOutput_accounts (unreserved.root ▸ canonical) server graph options
  obtain ⟨rendered, later, output, between, middle, shape, renders, goesOn,
      finishesLater⟩ :=
    goes_on_of_finish (silent_of_accounts accounts) run finishes
  obtain ⟨isOutput, rendering, look, isRendered, isRendering, isLook⟩ :=
    renderOutput_of_ok unreserved renders
  subst isOutput
  subst isRendered
  exact ⟨rendering, look, later, between, middle, shape, isRendering, isLook,
    goesOn, finishesLater⟩

/-- A flat job that is done has uploaded what it rendered. -/
theorem publishes_of_run
    {program : JobProgram Fields}
    (canonical : server.tempDirectory.Canonical)
    (unreserved : submission.Unreserved server files)
    (isPublishing : submission.publishes server program)
    (run :
      Run surroundings state (program.start files) events (outcome, after)
        final)
    (finishes : ∃ event ∈ events, event.call.isFinish = true) :
    ∃ rendering look waiting upload rest,
      events = rendering :: look :: (waiting ++ upload :: rest) ∧
      submission.Renders server rendering ∧
      submission.Finds server look ∧
      submission.Untouched server waiting ∧
      submission.Uploads server upload := by
  obtain ⟨graph, options, rfl⟩ := isPublishing
  obtain ⟨rendering, look, later, between, middle, shape, isRendering, isLook,
      goesOn, finishes⟩ :=
    renders_of_run canonical unreserved run finishes
  obtain ⟨waiting, others, _, reserved, reached, laterShape, reaches, goesOn,
      finishes⟩ :=
    goes_on_of_finish (silent_of_reach rfl) goesOn finishes
  obtain ⟨_, tells⟩ := reach_events reaches
  obtain ⟨uploading, rest, address, _, _, othersShape, uploads, _, _⟩ :=
    goes_on_of_finish
      (silent_of_accounts (.attempt (uploadResult_limited _ _ _)
        fun _ => trivial :
        JobProgram.Accounts [] Anything reserved _))
      goesOn finishes
  obtain ⟨upload, isUpload, uploaded⟩ := uploadResult_of_ok uploads
  refine ⟨rendering, look, waiting, upload, rest, ?_, isRendering, isLook,
    .of_isTell fun event member => ?_, uploaded⟩
  · rw [shape, laterShape, othersShape, isUpload]
    rfl
  · rw [tells event member]
    rfl

/-- To offer the output writes nothing, and tells where it is. -/
theorem offerResult_of_ok
    {offer : String × Json}
    (run :
      Run surroundings state
        ((JobProgram.attempt
          (offerResult server.publicBase server.probeProgram
            (server.outputOf submission.jobId))).start files)
        events (.ok offer, after) final) :
    offer.1 =
        downloadAddress server.publicBase
          (server.outputOf submission.jobId) ∧
      submission.Untouched server events := by
  rw [JobProgram.start_attempt] at run
  obtain ⟨first, second, offered, middle, shape, offers, ends⟩ :=
    run.andThen_cases
  cases ends
  rw [List.append_nil] at shape
  subst shape
  constructor
  · obtain ⟨_, _, facts, _, _, _, told⟩ := offers.andThen_cases
    cases facts with
    | error failure => cases told
    | ok value =>
        cases told
        rfl
  · -- What is permitted to a job without files has no targets.
    let workspace := (submission.startingFiles server).workspace
    have limited :
        Program.Limited workspace.Permits
          (offerResult server.publicBase server.probeProgram
            (server.outputOf submission.jobId)) :=
      offerResult_limited _ _ _
    intro event member isTarget
    exact List.not_mem_nil
      ((limited.of_run offers event member).targets _ isTarget)

/-- To be done is to tell of it. -/
theorem finish_events
    {fields notice : Fields}
    (run :
      Run surroundings state
        ((submission.reach .done 100 fields >>= fun _ =>
          (pure notice : JobProgram Fields)).start files)
        events (outcome, after) final) :
    after = files ∧
      ∀ event ∈ events,
        event.call =
          .tell {
            jobId := submission.jobId
            status := .done
            progress := some 100
            fields } := by
  rcases run.bind_cases with
    ⟨failure, _, reached⟩ |
    ⟨first, second, _, between, middle, shape, reached, later⟩
  · exact reach_events reached
  · obtain ⟨sameFiles, tells⟩ := reach_events reached
    rw [JobProgram.start_pure] at later
    cases later
    rw [List.append_nil] at shape
    rw [shape]
    exact ⟨sameFiles, tells⟩

/-- A composition that is done has excepted from removal what it rendered, and
has told of it only then. -/
theorem offers_of_run
    {program : JobProgram Fields}
    (canonical : server.tempDirectory.Canonical)
    (unreserved : submission.Unreserved server files)
    (isOffering : submission.offers server program)
    (run :
      Run surroundings state (program.start files) events (outcome, after)
        final)
    (finishes : ∃ event ∈ events, event.call.isFinish = true) :
    ∃ rendering look later,
      events = rendering :: look :: later ∧
      submission.Renders server rendering ∧
      submission.Finds server look ∧
      submission.Untouched server later ∧
      server.outputOf submission.jobId ∈ after.workspace.kept ∧
      ∀ event ∈ later, event.call.isFinish = true →
        ∃ metadata, event.call = .tell (submission.offer server metadata) := by
  obtain ⟨graph, options, rfl⟩ := isOffering
  obtain ⟨rendering, look, later, between, middle, shape, isRendering, isLook,
      goesOn, finishes⟩ :=
    renders_of_run canonical unreserved run finishes
  obtain ⟨waiting, others, _, reserved, reached, laterShape, reaches, goesOn,
      finishes⟩ :=
    goes_on_of_finish (silent_of_reach rfl) goesOn finishes
  obtain ⟨_, tells⟩ := reach_events reaches
  have describes :
      JobProgram.Accounts [] Anything reserved
        (JobProgram.attempt
          (offerResult server.publicBase server.probeProgram
            (server.outputOf submission.jobId))) :=
    .attempt (offerResult_limited _ _ _) fun _ => trivial
  obtain ⟨describing, finishing, offer, described, _, othersShape, offered,
      goesOn, _⟩ :=
    goes_on_of_finish (silent_of_accounts describes) goesOn finishes
  obtain ⟨isAddress, untouched⟩ := offerResult_of_ok offered
  rw [JobProgram.start_bind, JobProgram.start_keep] at goesOn
  obtain ⟨sameFiles, offers⟩ := finish_events goesOn
  refine ⟨rendering, look, later, shape, isRendering, isLook, ?_, ?_, ?_⟩
  · rw [laterShape, othersShape]
    refine .append (.of_isTell fun event member => ?_)
      (untouched.append (.of_isTell fun event member => ?_))
    · rw [tells event member]
      rfl
    · rw [offers event member]
      rfl
  · rw [sameFiles]
    exact List.mem_cons_self
  · intro event member isFinish
    rw [laterShape, othersShape] at member
    rcases List.mem_append.mp member with isReaching | isLater
    · rw [tells event isReaching] at isFinish
      cases isFinish
    · rcases List.mem_append.mp isLater with isDescribing | isFinishing
      · rw [silent_of_accounts describes offered event isDescribing]
          at isFinish
        cases isFinish
      · refine ⟨offer.2, ?_⟩
        rw [offers event isFinishing, isAddress]
        rfl

end Endings

/-! ## The whole job -/

/-- How the output of a job that is done gets to the client: it was uploaded as
it was rendered, or it is left alone to the end of the run. -/
inductive Delivered
    (server : RenderServer)
    (submission : Submission) :
    List (Event State) → Prop
  | uploaded
      {waiting rest : List (Event State)}
      {upload : Event State}
      (isFlat : submission.request.isComposition = false)
      (untouched : submission.Untouched server waiting)
      (uploads : submission.Uploads server upload) :
      Delivered server submission (waiting ++ upload :: rest)
  | kept
      {later : List (Event State)}
      (isComposition : submission.request.isComposition = true)
      (untouched : submission.Untouched server later) :
      Delivered server submission later

/-- What a run does that tells that its job is done: it does not touch the
output, renders it, finds it, and delivers it; and a composition offers it. -/
structure Produces
    (server : RenderServer)
    (submission : Submission)
    (events : List (Event State)) :
    Prop where
  result :
    ∃ making rendering look later,
      events = making ++ rendering :: look :: later ∧
      submission.Untouched server making ∧
      submission.Renders server rendering ∧
      submission.Finds server look ∧
      submission.Delivered server later
  offered :
    submission.request.isComposition = true →
    ∀ event ∈ events, event.call.isFinish = true →
      ∃ metadata, event.call = .tell (submission.offer server metadata)

theorem Renders.not_isFinish
    {rendering : Event State}
    (renders : submission.Renders server rendering) :
    rendering.call.isFinish = false := by
  obtain ⟨_, _, _, _, _, rfl, _⟩ := renders.succeeds
  rfl

theorem Finds.not_isFinish
    {look : Event State}
    (finds : submission.Finds server look) :
    look.call.isFinish = false := by
  obtain ⟨_, _, rfl⟩ := finds.succeeds
  rfl

/-- To settle is not to tell that the job is done. -/
theorem settle_silent
    (submission : Submission)
    (ended : Outcome Fields) :
    (submission.settle ended).Limited fun call => call.isFinish = false := by
  unfold settle
  split
  · exact .done _
  · exact .step rfl fun _ => .done _

theorem Untouched.of_isSending
    {events : List (Event State)}
    (sends : ∀ event ∈ events, event.call.isSending = true) :
    submission.Untouched server events := by
  intro event member
  have sending := sends event member
  cases call : event.call with
  | post address document => simp [Call.targets]
  | sleep seconds => simp [Call.targets]
  | _ =>
      rw [call] at sending
      cases sending

section WholeRun

variable {surroundings : Surroundings State} {state final : State}
  {events : List (Event State)}

/-- The work of a job that tells in the end that it is done. -/
theorem produces_of_work
    {files : JobFiles}
    {ended : Outcome Fields}
    (accepted : isJobId submission.jobId = true)
    (canonical : server.tempDirectory.Canonical)
    (run :
      Run surroundings state
        ((submission.work server).start (submission.startingFiles server))
        events (ended, files) final)
    (finishes : ∃ event ∈ events, event.call.isFinish = true) :
    ∃ making rendering look later,
      events = making ++ rendering :: look :: later ∧
      submission.Untouched server making ∧
      submission.Renders server rendering ∧
      submission.Finds server look ∧
      (submission.request.isComposition = false →
        ∃ waiting upload rest,
          later = waiting ++ upload :: rest ∧
          submission.Untouched server waiting ∧
          submission.Uploads server upload) ∧
      (submission.request.isComposition = true →
        submission.Untouched server later ∧
        server.outputOf submission.jobId ∈ files.workspace.kept ∧
        ∀ event ∈ events, event.call.isFinish = true →
          ∃ metadata,
            event.call = .tell (submission.offer server metadata)) := by
  have starts :
      submission.Unreserved server (submission.startingFiles server) :=
    ⟨rfl, rfl, List.not_mem_nil⟩
  unfold work at run
  cases kind : submission.request.isComposition with
  | false =>
      rw [kind] at run
      obtain ⟨making, _, between, middle, arrived, shape, untouched, _,
          isPublishing, unreserved, goesOn, finishes⟩ :=
        (flatWork_approaches accepted _).of_run starts run finishes
      obtain ⟨rendering, look, waiting, upload, rest, laterShape, isRendering,
          isLook, waits, uploads⟩ :=
        publishes_of_run canonical unreserved isPublishing goesOn finishes
      exact ⟨making, rendering, look, _, laterShape ▸ shape, untouched,
        isRendering, isLook,
        fun _ => ⟨waiting, upload, rest, rfl, waits, uploads⟩, by simp⟩
  | true =>
      rw [kind] at run
      obtain ⟨making, _, between, middle, arrived, shape, untouched, silent,
          isOffering, unreserved, goesOn, finishes⟩ :=
        (compositionWork_approaches accepted _).of_run starts run finishes
      obtain ⟨rendering, look, later, laterShape, isRendering, isLook, leaves,
          kept, offers⟩ :=
        offers_of_run canonical unreserved isOffering goesOn finishes
      refine ⟨making, rendering, look, later, laterShape ▸ shape, untouched,
        isRendering, isLook, by simp, fun _ => ⟨leaves, kept, ?_⟩⟩
      intro event member isFinish
      simp only [shape, laterShape, List.mem_append, List.mem_cons] at member
      rcases member with isMaking | rfl | rfl | isLater
      · simp [silent event isMaking] at isFinish
      · simp [isRendering.not_isFinish] at isFinish
      · simp [isLook.not_isFinish] at isFinish
      · exact offers event isLater isFinish

/-- Only the work tells that the job is done. -/
theorem mem_work_of_isFinish
    {preparation removal : Event State}
    {working settling sending : List (Event State)}
    (prepares : preparation.call.isFinish = false)
    (settles : ∀ event ∈ settling, event.call.isFinish = false)
    (removes : removal.call.isFinish = false)
    (sends : ∀ event ∈ sending, event.call.isSending = true) :
    ∀ event ∈ preparation :: working ++ settling ++ removal :: sending,
      event.call.isFinish = true → event ∈ working := by
  intro event member isFinish
  simp only [List.cons_append, List.mem_cons, List.mem_append,
    List.append_assoc] at member
  rcases member with rfl | isWorking | isSettling | rfl | isSending
  · simp [prepares] at isFinish
  · exact isWorking
  · simp [settles event isSettling] at isFinish
  · simp [removes] at isFinish
  · have tellsNot := Call.isTell_of_isSending (sends event isSending)
    simp [Call.isFinish_of_not_isTell tellsNot] at isFinish

/-- A run that tells that its job is done has produced its result. -/
theorem produces_of_run
    {outcome : Outcome Unit}
    (accepted : isJobId submission.jobId = true)
    (canonical : server.tempDirectory.Canonical)
    (run :
      Run surroundings state (submission.run server) events outcome final)
    (finishes : ∃ event ∈ events, event.call.isFinish = true) :
    submission.Produces server events := by
  have phases := run_phases run
  cases phases with
  | unprepared others answered =>
      obtain ⟨event, member, isFinish⟩ := finishes
      rw [List.mem_singleton.mp member] at isFinish
      cases isFinish
  | @cleaned before ready worked settled uncleaned cleaned _ working settling
      sending ended files notice removed _ others prepared works settles
      othersAgain removes sends =>
      have settlesSilently := (settle_silent submission ended).of_run settles
      have sendsOnly := (sendNotice_limited _ _ _ _).of_run sends
      let preparation : Event State := {
        before
        call := .makeDirectories server.tempDirectory
        answer := .ok ()
        after := ready }
      let removal : Event State := {
        before := uncleaned
        call := .removeFiles files.workspace.disposable
        answer := removed
        after := cleaned }
      have inWork :
          ∀ event ∈ preparation :: working ++ settling ++ removal :: sending,
            event.call.isFinish = true → event ∈ working :=
        mem_work_of_isFinish rfl settlesSilently rfl sendsOnly
      obtain ⟨event, member, isFinish⟩ := finishes
      obtain ⟨making, rendering, look, later, shape, untouched, isRendering,
          isLook, publishes, offers⟩ :=
        produces_of_work accepted canonical works
          ⟨event, inWork event member isFinish, isFinish⟩
      have ofComposition kind := (offers kind).2.2
      refine ⟨⟨preparation :: making, rendering, look,
        later ++ (settling ++ removal :: sending), ?_, ?_, isRendering, isLook,
        ?_⟩, fun kind event member isFinish => ?_⟩
      · rw [shape]
        simp [preparation, removal]
      · exact untouched.cons List.not_mem_nil
      · cases kind : submission.request.isComposition with
        | false =>
            obtain ⟨waiting, upload, rest, laterShape, waits, uploads⟩ :=
              publishes kind
            rw [laterShape, List.append_assoc, List.cons_append]
            exact .uploaded kind waits uploads
        | true =>
            obtain ⟨leaves, kept, _⟩ := offers kind
            have settlesOnly := (settle_limited _ _).of_run settles
            refine .kept kind <|
              leaves.append <| (Untouched.of_isTell settlesOnly).append <|
                (Untouched.of_isSending sendsOnly).cons fun isTarget =>
                  (Workspace.mem_disposable_iff.mp isTarget).2 kept
      · exact ofComposition kind event (inWork event member isFinish) isFinish

end WholeRun

end Submission

end Montage
