import Montage.Proofs.Render.Apart
import Montage.Proofs.Render.Conduct
import Montage.Proofs.Service.Steps

namespace Montage

/-!
# Outputs of records

The outputs of different jobs are different files of one directory, and no job
has another's output among its own files. So a record that tells of its output
can rely on it: calls of other jobs leave it, and the registry removes it only
with the record.
-/

/-- A record is done, and tells where its output is and where it is offered. -/
structure Job.Offers
    (server : RenderServer)
    (job : Job) :
    Prop where
  isDone : job.status = .done
  isOutput : job.outputPath = .text (server.outputOf job.id).toText
  isOffered :
    getField? "download_url" job.results =
      some (.text
        (downloadAddress server.publicBase (server.outputOf job.id)))

/-- A record offers its output when it is updated with an offer. -/
theorem Job.Offers.of_updated
    {server : RenderServer}
    {submission : Submission}
    {record : Job}
    (isOfJob : record.id = submission.jobId)
    (metadata : Json)
    (touched : Binary64) :
    let offer := submission.offer server metadata
    Job.Offers server {
      (record.updated offer.status (.ofInteger? offer.progress)
        offer.fields).2 with
      touched } := by
  intro offer
  have updated :
      record.updated offer.status (.ofInteger? offer.progress) offer.fields =
        (.ok (), {
          record with
          status := .done
          progress := Job.fullProgress
          outputPath := .text (server.outputOf submission.jobId).toText
          results :=
            setField "metadata" metadata <|
              setField "download_url"
                (.text (downloadAddress server.publicBase
                  (server.outputOf submission.jobId)))
                record.results }) := by
    simp [offer, Submission.offer, Job.updated, Job.moveTo, Job.progressAfter,
      Job.setResults, Job.setResult, Job.resultNames]
  rw [updated]
  refine ⟨rfl, by rw [← isOfJob], ?_⟩
  dsimp only
  rw [getField?_setField_of_ne (by decide), getField?_setField_self, isOfJob]

section Paths

variable {server : RenderServer} {id other : String}

theorem isPart_output
    (accepted : isJobId id = true) :
    Path.IsPart (id ++ "_output.mp4") :=
  (FileSuffix.output : FileSuffix [] "_output.mp4").isPart accepted

theorem RenderServer.outputOf_eq_child
    (accepted : isJobId id = true) :
    server.outputOf id = server.tempDirectory.child (id ++ "_output.mp4") :=
  Path.join_of_isPart server.tempDirectory (isPart_output accepted)

theorem RenderServer.outputOf_isIn
    (accepted : isJobId id = true) :
    (server.outputOf id).IsIn server.tempDirectory := by
  refine ⟨id ++ "_output.mp4", ?_, outputOf_eq_child accepted⟩
  intro isUp
  have inName : '_' ∈ (id ++ "_output.mp4").toList := by simp
  rw [isUp] at inName
  exact absurd inName (by decide)

/-- A job has no output among its files but its own. -/
theorem Submission.OwnsPath.ne_outputOf
    {submission : Submission}
    (accepted : isJobId submission.jobId = true)
    (otherAccepted : isJobId other = true)
    (different : other ≠ submission.jobId)
    {path : Path}
    (owns : submission.OwnsPath server.tempDirectory path) :
    path ≠ server.outputOf other := by
  intro same
  obtain ⟨suffix, isSuffix, isNamed⟩ := owns
  have isOutput : FileSuffix [] "_output.mp4" := .output
  have isChild :
      path = server.tempDirectory.child (submission.jobId ++ suffix) :=
    isNamed.trans (Path.join_of_isPart _ (isSuffix.isPart accepted))
  rw [isChild, RenderServer.outputOf_eq_child otherAccepted] at same
  have names := Path.child_injective same
  exact different (isSuffix.eq_of_append_eq isOutput names).1.symm

theorem RenderServer.outputOf_ne
    (accepted : isJobId id = true)
    (otherAccepted : isJobId other = true)
    (different : other ≠ id) :
    server.outputOf id ≠ server.outputOf other := by
  have isOutput : FileSuffix [] "_output.mp4" := .output
  intro same
  rw [outputOf_eq_child accepted, outputOf_eq_child otherAccepted] at same
  have names := Path.child_injective same
  exact different (isOutput.eq_of_append_eq isOutput names).1.symm

/-- The path of an output is read back from its text. -/
theorem RenderServer.ofText_outputOf
    (canonical : server.tempDirectory.Canonical)
    (id : String) :
    Path.ofText (server.outputOf id).toText = server.outputOf id :=
  Path.ofText_toText (canonical.join _)

/-- The output of a record that tells of that of its id. -/
theorem Job.outputFile?_of_isOutput
    (canonical : server.tempDirectory.Canonical)
    (accepted : isJobId id = true)
    {job : Job}
    (isOutput : job.outputPath = .text (server.outputOf id).toText) :
    job.outputFile? = some (server.outputOf id) := by
  have read := server.ofText_outputOf canonical id
  have notEmpty : (server.outputOf id).toText ≠ "" := by
    intro isEmpty
    rw [isEmpty, RenderServer.outputOf_eq_child accepted] at read
    have parts := congrArg Path.parts read
    simp [Path.ofText, Path.partsOf, splitAtChar, Path.child] at parts
  simp [Job.outputFile?, isOutput, Json.text?, nonempty?, Option.filter,
    notEmpty, read]

/-- The output of a record that offers it is that of its id. -/
theorem Job.Offers.outputFile?
    (canonical : server.tempDirectory.Canonical)
    {job : Job}
    (accepted : isJobId job.id = true)
    (offers : job.Offers server) :
    job.outputFile? = some (server.outputOf job.id) :=
  Job.outputFile?_of_isOutput canonical accepted offers.isOutput

/-- A record that tells of no output has none. -/
theorem Job.outputFile?_of_null
    {job : Job}
    (silent : job.outputPath = .null) :
    job.outputFile? = none := by
  simp [Job.outputFile?, silent, Json.text?, nonempty?]

end Paths

/-! ## Files that stay -/

namespace Scene

/-- A record with an id, if it tells of an output, offers the file of its id,
and the file stands. -/
def OfferStands
    (server : RenderServer)
    (scene : Scene)
    (id : String) :
    Prop :=
  ∀ job,
    scene.registry.find? id = some job →
    job.outputPath ≠ .null →
    IsPlainId id ∧
    job.Offers server ∧
    ∃ content, scene.disk.fileAt? (server.outputOf id) = some content

section Answers

variable {directory : Path} {before after : Scene} {call : Call}
  {answer : call.Answer}

/-- Only what is told changes the registry. -/
theorem Answers.registry_eq
    (answers : before.Answers directory call answer after)
    (tellsNot : call.isTell = false) :
    after.registry = before.registry := by
  cases call with
  | tell update => cases tellsNot
  | holds path => exact congrArg Scene.registry answers.1
  | _ => exact answers.1

/-- Files are removed before the first name that no file can have. -/
theorem Answers.fileAt?_removeFiles
    {paths : List Path}
    {answer : Outcome Unit}
    (answers : before.Answers directory (.removeFiles paths) answer after)
    (inside : ∀ target ∈ paths, target.IsIn directory)
    {path : Path}
    (isIn : path.IsIn directory) :
    after.disk.fileAt? path =
      if path ∈ paths.takeWhile Path.isUsable then none
      else before.disk.fileAt? path := by
  have disk : after.disk = (before.disk.cleanup paths).2 :=
    congrArg Prod.snd answers.2
  rw [disk]
  exact Disk.fileAt?_cleanup inside isIn before.disk

/-- A file that stands stays, unless a call targets it. -/
theorem Answers.fileAt?_stays
    (answers : before.Answers directory call answer after)
    (tellsNot : call.isTell = false)
    (inside : ∀ target ∈ call.targets, target.IsIn directory)
    {path : Path}
    (isIn : path.IsIn directory)
    (spared : path ∉ call.targets)
    {content : Bytes}
    (stands : before.disk.fileAt? path = some content) :
    after.disk.fileAt? path = some content := by
  cases call with
  | tell update => cases tellsNot
  | holds other =>
      rw [answers.1]
      exact stands
  | makeDirectories other =>
      have disk : after.disk = (before.disk.makeDirectories other).2 :=
        congrArg Prod.snd answers.2
      rw [disk]
      exact Disk.fileAt?_of_stays
        (fun _ _ => Disk.entry?_makeDirectories other) stands
  | removeFiles paths =>
      have notRemoved : path ∉ paths.takeWhile Path.isUsable := fun member =>
        spared ((List.takeWhile_sublist _).subset member)
      rw [answers.fileAt?_removeFiles inside isIn, if_neg notRemoved]
      exact stands
  | _ => exact (answers.2 inside path isIn spared).trans stands

end Answers

variable {server : RenderServer} {before : Scene}

/-- The registry removes the outputs of the records that it drops, and leaves
the outputs of all other ids. -/
theorem fileAt?_applied
    (canonical : server.tempDirectory.Canonical)
    (offers : ∀ id, before.OfferStands server id)
    {α : Type}
    {change : Change α}
    (dropsIdle : before.registry.DropsIdle change)
    {id : String}
    (accepted : isJobId id = true)
    (spared : ∀ job ∈ change.evicted, job.id ≠ id) :
    (before.applied change).disk.fileAt? (server.outputOf id) =
      before.disk.fileAt? (server.outputOf id) := by
  have ofDropped :
      ∀ path ∈ change.evicted.filterMap Job.outputFile?,
        ∃ other,
          isJobId other = true ∧ other ≠ id ∧
          path = server.outputOf other := by
    intro path member
    obtain ⟨job, isEvicted, isOutput⟩ := List.mem_filterMap.mp member
    obtain ⟨found, _, _⟩ := dropsIdle job isEvicted
    have tells : job.outputPath ≠ .null := by
      intro silent
      rw [Job.outputFile?_of_null silent] at isOutput
      cases isOutput
    obtain ⟨plain, offered, _⟩ := offers job.id job found tells
    rw [offered.outputFile? canonical plain.accepted] at isOutput
    exact ⟨job.id, plain.accepted, spared job isEvicted,
      (Option.some.inj isOutput).symm⟩
  have inside :
      ∀ path ∈ change.evicted.filterMap Job.outputFile?,
        path.IsIn server.tempDirectory := by
    intro path member
    obtain ⟨other, otherAccepted, _, isOutput⟩ := ofDropped path member
    rw [isOutput]
    exact RenderServer.outputOf_isIn otherAccepted
  have notRemoved :
      server.outputOf id ∉
        (change.evicted.filterMap Job.outputFile?).takeWhile
          Path.isUsable := by
    intro member
    obtain ⟨other, otherAccepted, different, isOutput⟩ :=
      ofDropped _ ((List.takeWhile_sublist _).subset member)
    exact RenderServer.outputOf_ne accepted otherAccepted different isOutput
  unfold applied
  dsimp only
  rw [Disk.fileAt?_cleanup inside (RenderServer.outputOf_isIn accepted),
    if_neg notRemoved]

end Scene

end Montage
