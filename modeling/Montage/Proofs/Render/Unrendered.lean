import Montage.Proofs.Render.Apart
import Montage.Proofs.Render.Conduct
import Montage.Proofs.Work.Values

namespace Montage

/-!
# Before the encoder runs

A job reserves its output when it runs the encoder, and not before. What it has
reserved until then are files of other names, so that nothing it does until then
is done to its output.
-/

namespace JobProgram

variable {α β : Type} {holds : JobFiles → Prop}

/-- What holds of the account before a program of a job holds after it. -/
def Keeps
    (holds : JobFiles → Prop)
    (program : JobProgram α) :
    Prop :=
  ∀ files, holds files → (program.start files).Yields fun ended => holds ended.2

namespace Keeps

theorem pure (value : α) :
    Keeps holds (Pure.pure value : JobProgram α) :=
  fun _ held => .done held

theorem ofOutcome (outcome : Outcome α) :
    Keeps holds (JobProgram.ofOutcome outcome) :=
  fun _ held => .done held

theorem files : Keeps holds JobProgram.files :=
  fun _ held => .done held

theorem attempt (program : Program (Outcome α)) :
    Keeps holds (JobProgram.attempt program) := by
  intro files held
  rw [start_attempt]
  exact (Program.Yields.of_forall (fun _ => trivial) program).andThen
    fun _ _ => .done held

theorem ofProgram (program : Program α) :
    Keeps holds (JobProgram.ofProgram program) := by
  intro files held
  rw [start_ofProgram]
  exact (Program.Yields.of_forall (fun _ => trivial) program).andThen
    fun _ _ => .done held

variable {program : JobProgram α} {continuation : α → JobProgram β}

theorem bind
    (keeps : program.Keeps holds)
    (goesOn : ∀ value, (continuation value).Keeps holds) :
    (program >>= continuation).Keeps holds := by
  intro files held
  rw [start_bind]
  refine (keeps files held).andThen ?_
  rintro ⟨outcome, after⟩ stillHeld
  cases outcome with
  | ok value => exact goesOn value after stillHeld
  | error failure => exact .done stillHeld

/-- What follows on a known outcome may rely on it. -/
theorem bindOutcome
    {outcome : Outcome α}
    (goesOn :
      ∀ value, outcome = .ok value → (continuation value).Keeps holds) :
    (JobProgram.ofOutcome outcome >>= continuation).Keeps holds := by
  intro files held
  rw [start_bind, start_ofOutcome]
  cases outcome with
  | ok value => exact goesOn value rfl files held
  | error failure => exact .done held

end Keeps

end JobProgram

/-- The account of a job that has not reserved its output. -/
structure Submission.Unreserved
    (server : RenderServer)
    (submission : Submission)
    (files : JobFiles) :
    Prop where
  jobId : files.workspace.jobId = submission.jobId
  root : files.workspace.root = server.tempDirectory
  lacks : server.outputOf submission.jobId ∉ files.workspace.files

namespace Submission

variable {server : RenderServer} {submission : Submission}

/-- No other name of a file is that of the output. -/
theorem Unreserved.track
    (accepted : isJobId submission.jobId = true)
    {references : List AssetReference}
    {suffix : String}
    (isSuffix : FileSuffix references suffix)
    (different : suffix ≠ "_output.mp4")
    {files : JobFiles}
    (unreserved : submission.Unreserved server files) :
    submission.Unreserved server {
      files with
      workspace := files.workspace.track (files.workspace.named suffix) } := by
  have isOutput : FileSuffix [] "_output.mp4" := .output
  have notOutput :
      files.workspace.named suffix ≠ server.outputOf submission.jobId := by
    intro same
    have ofJob : isJobId files.workspace.jobId = true := by
      rw [unreserved.jobId]
      exact accepted
    rw [Workspace.named_eq_child ofJob isSuffix, unreserved.root,
      unreserved.jobId, RenderServer.outputOf,
      Path.join_of_isPart _ (isOutput.isPart accepted)] at same
    exact different
      (isSuffix.eq_of_append_eq isOutput (Path.child_injective same)).2
  unfold Workspace.track
  split
  · exact unreserved
  · refine ⟨unreserved.jobId, unreserved.root, ?_⟩
    rw [List.mem_append, List.mem_singleton, not_or]
    exact ⟨unreserved.lacks, Ne.symm notOutput⟩

section Parts

variable (accepted : isJobId submission.jobId = true)

include accepted

theorem Unreserved.reserve
    {references : List AssetReference}
    {suffix : String}
    (isSuffix : FileSuffix references suffix)
    (different : suffix ≠ "_output.mp4") :
    (JobProgram.reserve suffix).Keeps (submission.Unreserved server) :=
  fun _ unreserved =>
    .done (unreserved.track accepted isSuffix different)

theorem reserveAsset_unreserved (reference : AssetReference) :
    reference.reserve.Keeps (submission.Unreserved server) := by
  refine .bindOutcome fun extension found => ?_
  refine .bind .files fun files => ?_
  refine .bind (Unreserved.reserve accepted
    (.asset _ (List.mem_singleton_self reference) found) ?_) fun path => ?_
  · intro same
    have characters := congrArg String.toList same
    simp at characters
  · exact .bind (fun _ unreserved => .done
      ⟨unreserved.jobId, unreserved.root, unreserved.lacks⟩) fun _ => .pure _

theorem reserveNew_unreserved (wanted : List AssetReference) :
    (AssetReference.reserveNew wanted).Keeps
      (submission.Unreserved server) := by
  induction wanted with
  | nil => exact .pure _
  | cons reference rest inductionHypothesis =>
      refine .bind .files fun files => ?_
      split
      · exact inductionHypothesis
      · refine .bind (reserveAsset_unreserved accepted reference) fun path => ?_
        exact .bind inductionHypothesis fun others => .pure _

theorem fetchTogether_unreserved
    (storageBase : Option String)
    (wanted : List AssetReference) :
    (fetchTogether storageBase wanted).Keeps
      (submission.Unreserved server) := by
  refine .bind (reserveNew_unreserved accepted wanted) fun pending => ?_
  refine .bind (.ofProgram _) fun outcomes => ?_
  refine .bind (.ofOutcome _) fun _ => ?_
  exact .bind .files fun files => .pure _

end Parts

section OtherParts

variable {holds : JobFiles → Prop}

theorem ensureFreeSpace_keeps (least : Amount) :
    (ensureFreeSpace least).Keeps holds :=
  .bind .files fun _ => .bind (.attempt _) fun _ => .ofOutcome _

theorem givenAddress_keeps (address : Option String) :
    (givenAddress address).Keeps holds := by
  cases address with
  | some value => exact .pure _
  | none => exact .ofOutcome _

theorem assetFile_keeps
    (assets : List (String × Path))
    (address : String) :
    (assetFile assets address).Keeps holds := by
  unfold assetFile
  split
  · exact .pure _
  · exact .ofOutcome _

theorem flatSource_keeps
    (server : RenderServer)
    (request : RenderRequest)
    (assets : List (String × Path))
    (video sound : String) :
    (flatSource server request assets video sound).Keeps holds := by
  have subtitles : (subtitleText request assets).Keeps holds := by
    unfold subtitleText
    split
    · exact .pure _
    · refine .bind (assetFile_keeps assets _) fun file => ?_
      exact .bind (.attempt _) fun content => .pure _
  have watermark : (watermarkFile request assets).Keeps holds := by
    unfold watermarkFile
    split
    · exact .pure _
    · exact .bind (assetFile_keeps assets _) fun file => .pure _
  refine .bind subtitles fun text => ?_
  refine .bind (assetFile_keeps assets video) fun videoFile => ?_
  refine .bind (.attempt _) fun media => ?_
  refine .bind (assetFile_keeps assets sound) fun audioFile => ?_
  exact .bind watermark fun image => .pure _

theorem frameSize_keeps
    (server : RenderServer)
    (entries : List TimelineEntry)
    (assets : List (String × Path)) :
    (frameSize server entries assets).Keeps holds := by
  unfold frameSize
  dsimp only
  split
  · refine .bind (assetFile_keeps assets _) fun file => ?_
    refine .bind (.attempt _) fun media => ?_
    split
    · split <;> exact .pure _
    · exact .pure _
  · exact .pure _

theorem writeText_keeps
    (path : Path)
    (text : String) :
    (writeText path text).Keeps holds := by
  unfold writeText
  split
  · exact .attempt _
  · exact .bind (.attempt _) fun _ => .ofOutcome _

end OtherParts

section Compilation

variable (accepted : isJobId submission.jobId = true)

include accepted

theorem subtitleStages_unreserved
    (plan : SubtitlePlan)
    (cues : List Cue) :
    (subtitleStages plan cues).Keeps (submission.Unreserved server) := by
  have isSuffix : FileSuffix [] "_subs.ass" := .subtitles
  unfold subtitleStages
  split
  · exact .pure _
  · refine .bind (Unreserved.reserve accepted isSuffix (by decide))
      fun file => ?_
    refine .bind (.ofProgram _) fun family => ?_
    unfold burnStages
    split
    · exact .pure _
    · refine .bind (.ofOutcome _) fun document => ?_
      exact .bind (writeText_keeps _ _) fun _ => .pure _

theorem textStages_unreserved (overlay : Option TextOverlay) :
    (textStages overlay).Keeps (submission.Unreserved server) := by
  have isSuffix : FileSuffix [] "_text.txt" := .text
  unfold textStages
  split
  · exact .pure _
  · split
    · exact .pure _
    · refine .bind (.ofProgram _) fun fontFile => ?_
      refine .bind (Unreserved.reserve accepted isSuffix (by decide))
        fun file => ?_
      unfold drawnStages
      split
      · exact .pure _
      · exact .bind (writeText_keeps _ _) fun _ => .pure _

theorem compileFlat_unreserved
    (source : FlatSource)
    (fontDirectory : String) :
    (source.compile fontDirectory).Keeps (submission.Unreserved server) := by
  refine .bind (.ofOutcome _) fun stages => ?_
  refine .bind (subtitleStages_unreserved accepted _ _) fun subtitles => ?_
  refine .bind (textStages_unreserved accepted _) fun text => ?_
  exact .ofOutcome _

theorem compileComposition_unreserved
    (composition : Composition)
    (fontDirectory : String) :
    (composition.compile fontDirectory).Keeps
      (submission.Unreserved server) := by
  have stages :
      (composition.finalStages fontDirectory).Keeps
        (submission.Unreserved server) := by
    unfold Composition.finalStages
    split
    · exact .pure _
    · exact subtitleStages_unreserved accepted _ _
  refine .bind (.ofOutcome _) fun parts => ?_
  refine .bind stages fun filters => ?_
  exact .bind (.ofOutcome _) fun sounds => .pure _

end Compilation

end Submission

end Montage
