import Montage.Proofs.Asset.Calls
import Montage.Proofs.Disk.Path
import Montage.Render.Job

namespace Montage

/-!
# The making of a result

Every program by which a job comes to its result keeps account of the job's
files: downloads write into reserved files, and so do the stages with files of
their own and the encoder. Probes, uploads and offers write nothing.
-/

section Programs

variable {workspace : Workspace}

/-- A call without targets is permitted in every workspace. -/
theorem Program.Limited.free
    {α : Type}
    {call : Call}
    {next : call.Answer → Program α}
    (quiet : call.isQuiet = true)
    (noTargets : call.targets = [])
    (goesOn : ∀ answer, (next answer).Limited workspace.Permits) :
    (Program.step call next).Limited workspace.Permits :=
  .step (workspace.permits_of_no_targets quiet noTargets) goesOn

/-- A probe writes nothing. -/
theorem probeFile_limited
    (program : String)
    (file : Path) :
    (probeFile program file).Limited workspace.Permits :=
  .free rfl rfl fun _ => .free rfl rfl fun _ => .done _

theorem probeIfPossible_limited
    (program : String)
    (file : Path) :
    (probeIfPossible program file).Limited workspace.Permits := by
  apply (probeFile_limited program file).andThen
  intro probed
  split <;> exact .done _

theorem uploadResult_limited
    (file : Path)
    (projectId : Option String)
    (jobId : String) :
    (uploadResult file projectId jobId).Limited workspace.Permits :=
  .free rfl rfl fun _ => .done _

theorem describeResult_limited
    (program : String)
    (file : Path) :
    (describeResult program file).Limited workspace.Permits := by
  apply (probeFile_limited program file).andThen
  intro probed
  split
  · exact .done _
  · split
    · exact .free rfl rfl fun _ => .done _
    · exact .done _

theorem offerResult_limited
    (publicBase program : String)
    (file : Path) :
    (offerResult publicBase program file).Limited workspace.Permits :=
  (describeResult_limited program file).andThen fun _ => .done _

/-- The encoder is told its output file last. -/
theorem Encoder.targets_command
    {output : Path}
    (canonical : output.Canonical)
    (encoder : Encoder)
    (graph : Graph)
    (options : Option OutputOptions) :
    (Call.encode (encoder.command graph options output.toText)).targets =
      [output] := by
  simp only [Call.targets, Encoder.command, List.getLast?_append,
    List.getLast?_singleton, Option.some_or, Option.map_some,
    Option.toList_some, Path.ofText_toText canonical]

/-- The encoder writes into its output file. -/
theorem render_limited
    {output : Path}
    (canonical : output.Canonical)
    (tracked : output ∈ workspace.files)
    (encoder : Encoder)
    (graph : Graph)
    (options : Option OutputOptions) :
    (encoder.render graph options output).Limited workspace.Permits := by
  have targets :
      ∀ path ∈
          (Call.encode (encoder.command graph options output.toText)).targets,
        path ∈ workspace.files := by
    rw [encoder.targets_command canonical graph options]
    simpa using tracked
  unfold Encoder.render
  split
  case isFalse => exact .done _
  refine .step ⟨rfl, targets⟩ ?_
  intro answer
  split
  · exact .done _
  · split
    · exact .done _
    · refine .free rfl rfl ?_
      intro present
      split <;> exact .done _

end Programs

/-- Nothing is expected of a value. -/
abbrev Anything
    {α : Type}
    (_ : α)
    (_ : JobFiles) :
    Prop :=
  True

section Parts

variable {references : List AssetReference} {files : JobFiles}

/-- The file of an asset is in the account as soon as it is told. -/
theorem AssetReference.reserve_accounts
    {reference : AssetReference}
    (isReferred : reference ∈ references) :
    JobProgram.Accounts references
      (fun path after => path ∈ after.workspace.files) files
      reference.reserve := by
  apply JobProgram.Accounts.bindOutcome
  intro extension found
  apply JobProgram.Accounts.bindFiles
  have reserved :
      JobProgram.Accounts references
        (fun path after => path ∈ after.workspace.files) files
        (JobProgram.reserve
          ("_asset_" ++ showNatural files.assets.length ++ extension)) :=
    .reserve (.asset _ isReferred found) (Workspace.mem_track _ _)
  apply reserved.bind
  intro path after _ tracked
  exact .bindRememberAsset (.pure tracked)

/-- All files to be downloaded are in the account before a download starts. -/
theorem AssetReference.reserveNew_accounts
    {wanted : List AssetReference}
    (areReferred : ∀ reference ∈ wanted, reference ∈ references) :
    JobProgram.Accounts references
      (fun pending after => ∀ item ∈ pending, item.2 ∈ after.workspace.files)
      files (AssetReference.reserveNew wanted) := by
  induction wanted generalizing files with
  | nil =>
      apply JobProgram.Accounts.pure
      simp
  | cons reference rest inductionHypothesis =>
      have restReferred : ∀ other ∈ rest, other ∈ references :=
        fun other member =>
          areReferred other (List.mem_cons_of_mem reference member)
      apply JobProgram.Accounts.bindFiles
      split
      · exact inductionHypothesis restReferred
      · have reserved :
            JobProgram.Accounts references
              (fun path after => path ∈ after.workspace.files) files
              reference.reserve :=
          reserve_accounts (areReferred reference List.mem_cons_self)
        apply reserved.bind
        intro path between _ tracked
        apply (inductionHypothesis restReferred).bind
        intro others after extended othersTracked
        apply JobProgram.Accounts.pure
        intro item member
        rcases List.mem_cons.mp member with isFirst | isOther
        · subst isFirst
          exact extended.files.subset tracked
        · exact othersTracked item isOther

/-- Downloads side by side write into files of the account. -/
theorem fetchTogether_accounts
    {wanted : List AssetReference}
    (areReferred : ∀ reference ∈ wanted, reference ∈ references)
    (storageBase : Option String) :
    JobProgram.Accounts references Anything files
      (fetchTogether storageBase wanted) := by
  apply (AssetReference.reserveNew_accounts areReferred).bind
  intro pending after _ tracked
  have downloads :
      (Program.gather (pending.map fun item =>
          download storageBase item.1 item.2)).Limited
        after.workspace.Permits := by
    apply Program.Limited.gather
    · exact after.workspace.permits_of_no_targets rfl rfl
    · intro program member
      obtain ⟨item, isPending, isDownload⟩ := List.mem_map.mp member
      subst isDownload
      exact download_limited
        (Workspace.allowsDownload (tracked item isPending)) storageBase item.1
  apply JobProgram.Accounts.bindProgram downloads
  intro outcomes
  apply JobProgram.Accounts.bindOutcome
  intro _ _
  exact .bindFiles (.pure trivial)

theorem ensureFreeSpace_accounts (least : Amount) :
    JobProgram.Accounts references Anything files (ensureFreeSpace least) := by
  apply JobProgram.Accounts.bindFiles
  apply JobProgram.Accounts.bindAttempt
  · exact .perform (files.workspace.permits_of_no_targets rfl rfl)
  · intro free
    exact .ofOutcome fun _ _ => trivial

theorem givenAddress_accounts (address : Option String) :
    JobProgram.Accounts references
      (fun value _ => address = some value) files
      (Submission.givenAddress address) := by
  cases address with
  | some value => exact .pure rfl
  | none =>
      apply JobProgram.Accounts.ofOutcome
      intro value same
      cases same

theorem assetFile_accounts
    (assets : List (String × Path))
    (address : String) :
    JobProgram.Accounts references Anything files
      (Submission.assetFile assets address) := by
  unfold Submission.assetFile
  split
  · exact .pure trivial
  · exact .ofOutcome fun _ _ => trivial

theorem subtitleText_accounts
    (request : RenderRequest)
    (assets : List (String × Path)) :
    JobProgram.Accounts references Anything files
      (Submission.subtitleText request assets) := by
  unfold Submission.subtitleText
  split
  · exact .pure trivial
  · apply (assetFile_accounts assets _).bind
    intro file after _ _
    apply JobProgram.Accounts.bindAttempt
    · exact .perform (after.workspace.permits_of_no_targets rfl rfl)
    · intro content
      exact .pure trivial

theorem watermarkFile_accounts
    (request : RenderRequest)
    (assets : List (String × Path)) :
    JobProgram.Accounts references Anything files
      (Submission.watermarkFile request assets) := by
  unfold Submission.watermarkFile
  split
  · exact .pure trivial
  · apply (assetFile_accounts assets _).bind
    intro file after _ _
    exact .pure trivial

theorem flatSource_accounts
    (server : RenderServer)
    (request : RenderRequest)
    (assets : List (String × Path))
    (video sound : String) :
    JobProgram.Accounts references Anything files
      (Submission.flatSource server request assets video sound) := by
  apply (subtitleText_accounts request assets).bind
  intro subtitles _ _ _
  apply (assetFile_accounts assets video).bind
  intro videoFile _ _ _
  apply JobProgram.Accounts.bindAttempt (probeIfPossible_limited _ _)
  intro media
  apply (assetFile_accounts assets sound).bind
  intro audioFile _ _ _
  apply (watermarkFile_accounts request assets).bind
  intro watermark _ _ _
  exact .pure trivial

theorem frameSize_accounts
    (server : RenderServer)
    (entries : List TimelineEntry)
    (assets : List (String × Path)) :
    JobProgram.Accounts references Anything files
      (Submission.frameSize server entries assets) := by
  unfold Submission.frameSize
  dsimp only
  split
  · apply (assetFile_accounts assets _).bind
    intro file _ _ _
    apply JobProgram.Accounts.bindAttempt (probeIfPossible_limited _ _)
    intro media
    split
    · split <;> exact .pure trivial
    · exact .pure trivial
  · exact .pure trivial

/-! ## Stages with files of their own -/

theorem writeText_accounts
    {path : Path}
    (tracked : path ∈ files.workspace.files)
    (text : String) :
    JobProgram.Accounts references Anything files (writeText path text) := by
  have permits :
      ∀ content, files.workspace.Permits (.writeFile path content) :=
    fun _ => ⟨rfl, by simpa [Call.targets] using tracked⟩
  unfold writeText
  split
  · exact .attempt (.perform (permits _)) fun _ => trivial
  · apply JobProgram.Accounts.bindAttempt (.perform (permits _))
    intro written
    exact .ofOutcome fun _ _ => trivial

/-- The document of subtitles is written into a reserved file. -/
theorem subtitleStages_accounts
    (plan : SubtitlePlan)
    (cues : List Cue) :
    JobProgram.Accounts references Anything files
      (subtitleStages plan cues) := by
  unfold subtitleStages
  split
  · exact .pure trivial
  · have reserved :
        JobProgram.Accounts references
          (fun path after => path ∈ after.workspace.files) files
          (JobProgram.reserve "_subs.ass") :=
      .reserve .subtitles (Workspace.mem_track _ _)
    apply reserved.bind
    intro path after _ tracked
    apply JobProgram.Accounts.bindProgram
    · exact .perform (after.workspace.permits_of_no_targets rfl rfl)
    · intro family
      unfold burnStages
      split
      · exact .pure trivial
      · apply JobProgram.Accounts.bindOutcome
        intro document _
        apply (writeText_accounts tracked document).bind
        intro _ _ _ _
        exact .pure trivial

/-- A drawn text is written into a reserved file. -/
theorem textStages_accounts (overlay : Option TextOverlay) :
    JobProgram.Accounts references Anything files (textStages overlay) := by
  unfold textStages
  split
  · exact .pure trivial
  · split
    · exact .pure trivial
    · apply JobProgram.Accounts.bindProgram
      · exact .perform (files.workspace.permits_of_no_targets rfl rfl)
      · intro fontFile
        have reserved :
            JobProgram.Accounts references
              (fun path after => path ∈ after.workspace.files) files
              (JobProgram.reserve "_text.txt") :=
          .reserve .text (Workspace.mem_track _ _)
        apply reserved.bind
        intro path after _ tracked
        unfold drawnStages
        split
        · exact .pure trivial
        · rename_i text _
          apply (writeText_accounts tracked text).bind
          intro _ _ _ _
          exact .pure trivial

theorem FlatSource.compile_accounts
    (source : FlatSource)
    (fontDirectory : String) :
    JobProgram.Accounts references Anything files
      (source.compile fontDirectory) := by
  apply JobProgram.Accounts.bindOutcome
  intro stages _
  apply (subtitleStages_accounts _ _).bind
  intro subtitles _ _ _
  apply (textStages_accounts _).bind
  intro text _ _ _
  exact .ofOutcome fun _ _ => trivial

theorem Composition.compile_accounts
    (composition : Composition)
    (fontDirectory : String) :
    JobProgram.Accounts references Anything files
      (composition.compile fontDirectory) := by
  apply JobProgram.Accounts.bindOutcome
  intro parts _
  have stages :
      JobProgram.Accounts references Anything files
        (composition.finalStages fontDirectory) := by
    unfold finalStages
    split
    · exact .pure trivial
    · exact subtitleStages_accounts _ _
  apply stages.bind
  intro _ _ _ _
  apply JobProgram.Accounts.bindOutcome
  intro sounds _
  exact .pure trivial

/-- The output file is reserved before the encoder runs. -/
theorem renderOutput_accounts
    (canonical : files.workspace.root.Canonical)
    (server : RenderServer)
    (graph : Graph)
    (options : Option OutputOptions) :
    JobProgram.Accounts references
      (fun output after =>
        output = after.workspace.named "_output.mp4" ∧
          output ∈ after.workspace.files)
      files (Submission.renderOutput server graph options) := by
  have reserved :
      JobProgram.Accounts references
        (fun output after =>
          output = after.workspace.named "_output.mp4" ∧
            output.Canonical ∧ output ∈ after.workspace.files)
        files (JobProgram.reserve "_output.mp4") := by
    refine .reserve .output ⟨?_, canonical.join _, Workspace.mem_track _ _⟩
    unfold Workspace.track
    split <;> rfl
  apply reserved.bind
  rintro output after _ ⟨isNamed, isCanonical, tracked⟩
  apply JobProgram.Accounts.bindAttempt
    (render_limited isCanonical tracked server.encoder graph options)
  intro _
  exact .pure ⟨isNamed, tracked⟩

end Parts

end Montage
