import Montage.Proofs.Render.Leftovers

namespace Montage

/-!
# Conduct of jobs

Whatever is answered, a job touches files of its own only, and tells of itself
only. A composition tells of its output after it has seen it stand, and does not
touch it between; from then on it leaves it alone. A flat job tells of none.
-/

/-- The output file of the job with an id. -/
def RenderServer.outputOf
    (server : RenderServer)
    (id : String) :
    Path :=
  server.tempDirectory.join (id ++ "_output.mp4")

/-- How far a job is with its output. -/
inductive OutputStage
  /-- It may still write or remove it. -/
  | working
  /-- It has seen it stand, and may tell of it. -/
  | seen
  /-- It has told of it. -/
  | told

namespace Submission

/-- The account of a job has files of the job only. -/
def OwnsFiles
    (server : RenderServer)
    (submission : Submission)
    (files : JobFiles) :
    Prop :=
  (submission.startingFiles server).workspace.Extends submission.references
    files.workspace

/-- What is told of an output that was seen. -/
def offer
    (server : RenderServer)
    (submission : Submission)
    (metadata : Json) :
    StatusUpdate :=
  let output := server.outputOf submission.jobId
  { jobId := submission.jobId
    status := .done
    progress := some 100
    fields := [
      ("download_url", .text (downloadAddress server.publicBase output)),
      ("metadata", metadata),
      ("output_path", .text output.toText)] }

/-- A call of a job that is in order at a stage, and tells of no output. -/
structure Allows
    (server : RenderServer)
    (submission : Submission)
    (stage : OutputStage)
    (call : Call) :
    Prop where
  owned :
    ∀ path ∈ call.targets, submission.OwnsPath server.tempDirectory path
  spared :
    stage ≠ .working → server.outputOf submission.jobId ∉ call.targets
  told :
    ∀ update, call = .tell update →
      update.jobId = submission.jobId ∧
      ∀ value, ("output_path", value) ∉ update.fields

/-- What is left of the program of a job is in order at a stage. -/
inductive Conducts
    (server : RenderServer)
    (submission : Submission) :
    OutputStage → Program (Outcome Unit) → Prop
  | ended
      {stage : OutputStage}
      {outcome : Outcome Unit} :
      Conducts server submission stage (.done outcome)
  | called
      {stage : OutputStage}
      {call : Call}
      {next : call.Answer → Program (Outcome Unit)}
      (allowed : submission.Allows server stage call)
      (goesOn :
        ∀ answer, Conducts server submission stage (next answer)) :
      Conducts server submission stage (.step call next)
  | looked
      {next : Outcome Bool → Program (Outcome Unit)}
      (present : Conducts server submission .seen (next (.ok true)))
      (absent :
        ∀ answer, answer ≠ .ok true →
          Conducts server submission .working (next answer)) :
      Conducts server submission .working
        (.step (.holds (server.outputOf submission.jobId)) next)
  | offered
      {metadata : Json}
      {next : Outcome Unit → Program (Outcome Unit)}
      (goesOn : ∀ answer, Conducts server submission .told (next answer)) :
      Conducts server submission .seen
        (.step (.tell (submission.offer server metadata)) next)
  | gaveUp
      {program : Program (Outcome Unit)}
      (rest : Conducts server submission .working program) :
      Conducts server submission .seen program

/-- How a job ends, after its work. -/
def closing
    (server : RenderServer)
    (submission : Submission)
    (ended : Outcome Fields × JobFiles) :
    Program (Outcome Unit) :=
  (submission.settle ended.1).andThen fun notice =>
    .step (.removeFiles ended.2.workspace.disposable) fun removed =>
      submission.sendNotice server removed notice

/-- A job makes its directory, works, and ends. -/
theorem run_eq
    (server : RenderServer)
    (submission : Submission) :
    submission.run server =
      .step (.makeDirectories server.tempDirectory) fun made =>
        match made with
        | .error failure => .done (.error failure)
        | .ok _ =>
            ((submission.work server).start
              (submission.startingFiles server)).andThen
                (submission.closing server) :=
  rfl

section Parts

variable {server : RenderServer} {submission : Submission}
  {stage : OutputStage} {files : JobFiles}

theorem OwnsFiles.ownsPath
    (owned : submission.OwnsFiles server files)
    {path : Path}
    (member : path ∈ files.workspace.files) :
    submission.OwnsPath server.tempDirectory path := by
  rcases owned.names path member with isOld | isNamed
  · cases isOld
  · exact isNamed

theorem OwnsFiles.named_output
    (owned : submission.OwnsFiles server files) :
    files.workspace.named "_output.mp4" =
      server.outputOf submission.jobId := by
  simp [Workspace.named, RenderServer.outputOf, owned.jobId, owned.root,
    startingFiles]

/-- To render reserves the output and runs the encoder. -/
theorem start_renderOutput
    (server : RenderServer)
    (graph : Graph)
    (options : Option OutputOptions)
    (files : JobFiles) :
    (renderOutput server graph options).start files =
      (server.encoder.render graph options
        (files.workspace.named "_output.mp4")).andThen fun rendered =>
          .done
            (rendered.map fun _ => files.workspace.named "_output.mp4",
              { files with
                workspace :=
                  files.workspace.track
                    (files.workspace.named "_output.mp4") }) := by
  unfold renderOutput
  rw [JobProgram.start_bind, JobProgram.start_reserve, Program.andThen]
  dsimp only
  rw [JobProgram.start_bind, JobProgram.start_attempt, Program.andThen_assoc]
  congr 1
  funext rendered
  cases rendered <;> rfl

/-! ## Calls that are in order -/

theorem allows_of_no_targets
    {call : Call}
    (noTargets : call.targets = [])
    (tellsNot : call.isTell = false) :
    submission.Allows server stage call where
  owned := by simp [noTargets]
  spared := by simp [noTargets]
  told := by
    rintro update rfl
    cases tellsNot

/-- What an account of the job permits is in order until the output is seen. -/
theorem allows_of_permits
    (owned : submission.OwnsFiles server files)
    {call : Call}
    (permitted : files.workspace.Permits call) :
    submission.Allows server .working call where
  owned := fun path isTarget =>
    owned.ownsPath (permitted.targets path isTarget)
  spared := fun notWorking => (notWorking rfl).elim
  told := by
    rintro update rfl
    exact absurd permitted.quiet (by simp [Call.isQuiet])

theorem allows_tell
    {update : StatusUpdate}
    (ofJob : update.jobId = submission.jobId)
    (noOutput : ∀ value, ("output_path", value) ∉ update.fields) :
    submission.Allows server stage (.tell update) where
  owned := by simp [Call.targets]
  spared := by simp [Call.targets]
  told := by
    rintro _ ⟨⟩
    exact ⟨ofJob, noOutput⟩

/-! ## Programs that are in order -/

namespace Conducts

variable {α : Type}

/-- A program with calls in order goes on from its value. -/
theorem andThen
    {permitted : Call → Prop}
    {program : Program α}
    {continuation : α → Program (Outcome Unit)}
    (limited : program.Limited permitted)
    (allowed : ∀ call, permitted call → submission.Allows server stage call)
    (goesOn :
      ∀ value, Conducts server submission stage (continuation value)) :
    Conducts server submission stage (program.andThen continuation) := by
  induction limited with
  | done value => exact goesOn value
  | step isPermitted _ inductionHypothesis =>
      exact .called (allowed _ isPermitted) inductionHypothesis

/-- A program that keeps account is in order until the output is seen. -/
theorem of_accounted
    {expected : α → JobFiles → Prop}
    {program : Program (Outcome α × JobFiles)}
    {continuation : Outcome α × JobFiles → Program (Outcome Unit)}
    (accounted : Accounted submission.references expected files program)
    (owned : submission.OwnsFiles server files)
    (goesOn :
      ∀ ended : Outcome α × JobFiles,
        files.workspace.Extends submission.references ended.2.workspace →
        (∀ value, ended.1 = .ok value → expected value ended.2) →
        Conducts server submission .working (continuation ended)) :
    Conducts server submission .working
      (program.andThen continuation) := by
  induction accounted with
  | done isExpected => exact goesOn _ (.refl _) isExpected
  | call permitted _ inductionHypothesis =>
      exact .called (allows_of_permits owned permitted) fun answer =>
        inductionHypothesis answer owned goesOn
  | account extended _ _ inductionHypothesis =>
      exact inductionHypothesis (owned.trans extended) fun ended later =>
        goesOn ended (extended.trans later)

/-- A job ends in order; what it removes is not an output that it has seen. -/
theorem closing
    {ended : Outcome Fields × JobFiles}
    (owned : submission.OwnsFiles server ended.2)
    (spared :
      stage ≠ .working →
        server.outputOf submission.jobId ∉ ended.2.workspace.disposable) :
    Conducts server submission stage (submission.closing server ended) := by
  have removes :
      submission.Allows server stage
        (.removeFiles ended.2.workspace.disposable) := {
    owned := fun path isTarget =>
      owned.ownsPath (Workspace.mem_disposable_iff.mp isTarget).1
    spared
    told := by
      rintro update ⟨⟩ }
  have sends (removed : Outcome Unit) (notice : Outcome Fields) :
      Conducts server submission stage
        (submission.sendNotice server removed notice) := by
    have limited := sendNotice_limited server submission removed notice
    rw [← Program.andThen_done (submission.sendNotice server removed notice)]
    refine andThen limited ?_ fun _ => .ended
    intro call sending
    refine allows_of_no_targets ?_ (Call.isTell_of_isSending sending)
    cases call <;> first | rfl | cases sending
  unfold Submission.closing settle
  split
  · exact .called removes fun removed => sends removed _
  · exact .called (allows_tell rfl (by simp)) fun told =>
      .called removes fun removed => sends removed _

/-- A part of the work that keeps account goes on with the rest of it. -/
theorem bind
    {expected : α → JobFiles → Prop}
    {prepare : JobProgram α}
    {rest : α → JobProgram Fields}
    (accounts :
      JobProgram.Accounts submission.references expected files prepare)
    (owned : submission.OwnsFiles server files)
    (goesOn :
      ∀ value after,
        files.workspace.Extends submission.references after.workspace →
        expected value after →
        Conducts server submission .working
          (((rest value).start after).andThen (submission.closing server))) :
    Conducts server submission .working
      (((prepare >>= rest).start files).andThen
        (submission.closing server)) := by
  rw [JobProgram.start_bind, Program.andThen_assoc]
  refine of_accounted accounts owned ?_
  rintro ⟨outcome, after⟩ extended isExpected
  cases outcome with
  | ok value => exact goesOn value after extended (isExpected value rfl)
  | error failure =>
      exact .closing (owned.trans extended) fun late => (late rfl).elim

/-- To reach a station tells of no output. -/
theorem reach
    {status : JobStatus}
    {progress : Int}
    {fields : Fields}
    {rest : Unit → JobProgram Fields}
    (noOutput : ∀ value, ("output_path", value) ∉ fields)
    (goesOn :
      Conducts server submission stage
        (((rest ()).start files).andThen (submission.closing server)))
    (fails :
      ∀ failure,
        Conducts server submission stage
          (submission.closing server (.error failure, files))) :
    Conducts server submission stage
      (((submission.reach status progress fields >>= rest).start
        files).andThen (submission.closing server)) := by
  rw [JobProgram.start_bind, Submission.reach, JobProgram.start_attempt]
  refine .called (allows_tell rfl noOutput) ?_
  intro told
  cases told with
  | ok _ => exact goesOn
  | error failure => exact fails failure

/-- A flat job is in order, and never tells of an output. -/
theorem of_follows
    {plan : List JobStatus}
    {program : JobProgram Fields}
    (follows :
      Follows submission submission.references false plan files program)
    (owned : submission.OwnsFiles server files) :
    Conducts server submission .working
      ((program.start files).andThen (submission.closing server)) := by
  induction follows with
  | making accounts _ inductionHypothesis =>
      exact bind accounts owned fun value after extended isExpected =>
        inductionHypothesis value after extended isExpected
          (owned.trans extended)
  | reaching early _ inductionHypothesis =>
      exact reach (by simp) (inductionHypothesis owned) fun failure =>
        .closing owned fun late => (late rfl).elim
  | delivered delivers noOutput recordable =>
      exact reach noOutput (.closing owned fun late => (late rfl).elim)
        fun failure => .closing owned fun late => (late rfl).elim
  | offered isOffer isOutput tracked recordable => cases isOffer

/-- The encoder is run in order, and the output seen if it succeeds. -/
theorem render
    (canonical : server.tempDirectory.Canonical)
    {continuation : Outcome Unit → Program (Outcome Unit)}
    (graph : Graph)
    (options : Option OutputOptions)
    (done : Conducts server submission .seen (continuation (.ok ())))
    (failed :
      ∀ failure,
        Conducts server submission .working (continuation (.error failure))) :
    Conducts server submission .working
      ((server.encoder.render graph options
        (server.outputOf submission.jobId)).andThen continuation) := by
  have targets :=
    server.encoder.targets_command
      (canonical.join (submission.jobId ++ "_output.mp4")) graph options
  have encodes :
      submission.Allows server .working
        (.encode
          (server.encoder.command graph options
            (server.outputOf submission.jobId).toText)) := {
    owned := by
      intro path isTarget
      rw [RenderServer.outputOf, targets, List.mem_singleton] at isTarget
      exact ⟨"_output.mp4", .output, isTarget⟩
    spared := fun late => (late rfl).elim
    told := by
      rintro update ⟨⟩ }
  unfold Encoder.render
  split
  case isFalse => exact failed _
  refine .called encodes ?_
  intro answer
  cases answer with
  | error failure => exact failed failure
  | ok result =>
      simp only
      split
      · exact failed _
      · refine .looked done ?_
        intro present notPresent
        cases present with
        | error failure => exact failed failure
        | ok isThere =>
            cases isThere with
            | true => exact (notPresent rfl).elim
            | false => exact failed _

/-- An output that was seen is described, told, and left. -/
theorem offering
    (owned : submission.OwnsFiles server files) :
    Conducts server submission .seen
      (((submission.reach .finalizing 80 [] >>= fun _ =>
          JobProgram.attempt
            (offerResult server.publicBase server.probeProgram
              (server.outputOf submission.jobId)) >>= fun offer =>
          JobProgram.keep (server.outputOf submission.jobId) >>= fun _ =>
          submission.reach .done 100
            ([("download_url", .text offer.1), ("metadata", offer.2)] ++
              [("output_path",
                .text (server.outputOf submission.jobId).toText)]) >>=
            fun _ =>
              pure (submission.successNotice
                [("download_url", .text offer.1),
                  ("metadata", offer.2)])).start
        files).andThen (submission.closing server)) := by
  have fails :
      ∀ failure,
        Conducts server submission .seen
          (submission.closing server (.error failure, files)) :=
    fun failure => .gaveUp <| .closing owned fun late => (late rfl).elim
  let output := server.outputOf submission.jobId
  let left : JobFiles :=
    { files with workspace := files.workspace.keep output }
  have ownsLeft : submission.OwnsFiles server left :=
    owned.trans (files.workspace.keep_extends output)
  have spared : output ∉ left.workspace.disposable := by
    simp [left, Workspace.disposable, Workspace.keep]
  have ends (outcome : Outcome Fields) :
      Conducts server submission .told
        (submission.closing server (outcome, left)) :=
    .closing ownsLeft fun _ => spared
  refine reach (by simp) ?_ fails
  rw [JobProgram.start_bind, JobProgram.start_attempt, Program.andThen_assoc,
    Program.andThen_assoc]
  change Conducts server submission .seen
    ((Program.andThen (describeResult server.probeProgram output) _).andThen _)
  rw [Program.andThen_assoc]
  have describes :
      (describeResult server.probeProgram output).Limited
        (Workspace.Permits {
          jobId := submission.jobId
          root := server.tempDirectory }) :=
    describeResult_limited _ _
  refine andThen describes ?_ ?_
  · intro call permitted
    refine allows_of_no_targets ?_ (Call.isTell_of_isQuiet permitted.quiet)
    exact List.eq_nil_iff_forall_not_mem.mpr fun path isTarget =>
      List.not_mem_nil (permitted.targets path isTarget)
  · intro facts
    cases facts with
    | error failure => exact fails failure
    | ok metadata =>
        refine .offered ?_
        intro told
        cases told with
        | ok _ => exact ends _
        | error failure => exact ends _

/-- A composition is in order. -/
theorem of_compositionWork
    (canonical : server.tempDirectory.Canonical)
    (isComposition : submission.request.isComposition = true)
    (owned : submission.OwnsFiles server files) :
    Conducts server submission .working
      (((compositionWork server submission).start files).andThen
        (submission.closing server)) := by
  have gaveUp :
      ∀ {after : JobFiles} {failure : Failure},
        submission.OwnsFiles server after →
        Conducts server submission .working
          (submission.closing server (.error failure, after)) :=
    fun stillOwned => .closing stillOwned fun late => (late rfl).elim
  refine reach (by simp) ?_ fun failure => gaveUp owned
  refine bind (ensureFreeSpace_accounts _) owned ?_
  intro _ spaced extendedBySpace _
  have areReferred :
      ∀ reference ∈ segmentReferences submission.request.entries,
        reference ∈ submission.references := by
    intro reference member
    simpa [references, isComposition] using member
  have ownsSpaced := owned.trans extendedBySpace
  refine bind (fetchTogether_accounts areReferred _) ownsSpaced ?_
  intro assets fetched extendedByAssets _
  have ownsFetched := ownsSpaced.trans extendedByAssets
  refine bind (frameSize_accounts _ _ _) ownsFetched ?_
  intro size sized extendedBySize _
  have ownsSized := ownsFetched.trans extendedBySize
  refine reach (by simp) ?_ fun failure => gaveUp ownsSized
  refine bind (Composition.compile_accounts _ _) ownsSized ?_
  intro graph compiled extendedByGraph _
  have ownsCompiled : submission.OwnsFiles server compiled :=
    ownsSized.trans extendedByGraph
  rw [JobProgram.start_bind, start_renderOutput,
    ownsCompiled.named_output, Program.andThen_assoc, Program.andThen_assoc]
  have ownsRendered :
      submission.OwnsFiles server {
        compiled with
        workspace :=
          compiled.workspace.track (server.outputOf submission.jobId) } := by
    rw [← ownsCompiled.named_output]
    exact ownsCompiled.trans (Workspace.track_extends _ .output)
  exact render canonical _ _ (offering ownsRendered)
    fun failure => gaveUp ownsRendered

end Conducts

/-- Every job is in order from its start. -/
theorem run_conducts
    (canonical : server.tempDirectory.Canonical)
    (submission : Submission) :
    Conducts server submission .working (submission.run server) := by
  have starts :
      submission.OwnsFiles server (submission.startingFiles server) :=
    .refl _
  rw [run_eq]
  refine .called (allows_of_no_targets rfl rfl) ?_
  intro made
  cases made with
  | error failure => exact .ended
  | ok _ =>
      unfold work
      cases kind : submission.request.isComposition with
      | true => exact .of_compositionWork canonical kind starts
      | false =>
          exact .of_follows (flatWork_follows server kind canonical) starts

end Parts

end Submission

end Montage
