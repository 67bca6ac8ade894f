import Mathlib.Data.List.Nodup
import Montage.Proofs.Render.Leftovers

namespace Montage

/-!
# Steps of the service

The service takes jobs in and runs them side by side. A step takes one job in
or refuses it, answers one call of one job, or ends a job. Between two steps any
time may pass: the clock shows anything whenever it is read.
-/

/-- A job that runs, and what is left of its program. -/
structure LiveJob where
  submission : Submission
  rest : Program (Outcome Unit)

/-- The service: what its jobs have around them, and the jobs that run. -/
structure Service where
  scene : Scene
  live : List LiveJob := []

namespace Scene

/-- Take over a change of the registry, and remove the output files of the
records that it dropped. -/
def applied
    {α : Type}
    (before : Scene)
    (change : Change α) :
    Scene where
  registry := change.registry
  disk :=
    (before.disk.cleanup (change.evicted.filterMap Job.outputFile?)).2

/-- How a job is taken in at two readings of the clock. -/
def enrollment
    (scene : Scene)
    (request : RenderRequest)
    (submission : Submission)
    (now later : Binary64) :
    Change Job :=
  scene.registry.enroll submission.jobId (.ofText? request.projectId) now
    later removesOutput

/-- Start the task of a job. -/
def withTask
    (scene : Scene)
    (id : String) :
    Scene :=
  { scene with registry := scene.registry.startTask id }

/-- End the task of a job, which gives its slot back. -/
def withoutTask
    (scene : Scene)
    (id : String) :
    Scene :=
  { scene with registry := scene.registry.finish id }

/--
What the answer to a call of a job does. Statuses are told to the registry,
which removes the output files of records that it drops. Directories are made,
and files removed, as on any disk. Other calls, however they are answered, may
leave anything at their own targets, but the directory of files in work is
changed by nobody else: what stands at its other names stays, and nobody makes
directories in it, so that what is looked for there is no directory.
-/
def Answers
    (directory : Path)
    (before : Scene) :
    (call : Call) → call.Answer → Scene → Prop
  | .tell update, answer, after =>
      ∃ now later,
        let change :=
          before.registry.tell update.jobId update.status.name
            (.ofInteger? update.progress) update.fields now later
            removesOutput
        answer = change.result.map (fun _ => ()) ∧
          after = before.applied change
  | .makeDirectories path, answer, after =>
      after.registry = before.registry ∧
      (answer, after.disk) = before.disk.makeDirectories path
  | .removeFiles paths, answer, after =>
      after.registry = before.registry ∧
      (answer, after.disk) = before.disk.cleanup paths
  | .holds path, answer, after =>
      after = before ∧
      answer = before.disk.holds path ∧
      before.disk.isDirectory path = false
  | call, _, after =>
      after.registry = before.registry ∧
      ((∀ target ∈ call.targets, target.IsIn directory) →
        ∀ path, path.IsIn directory → path ∉ call.targets →
          after.disk.fileAt? path = before.disk.fileAt? path)

end Scene

/-- An id that a job can have, made of the characters of such ids: the newline
that may end an id is none of them. -/
structure IsPlainId (id : String) : Prop where
  accepted : isJobId id = true
  characters : ∀ character ∈ id.toList, isJobIdCharacter character = true

/-! ## One among others -/

section Amid

variable {α β : Type} {item here : α} {front back : List α}

/-- An item among others is the one in their midst, or another. -/
theorem mem_amid :
    item ∈ front ++ here :: back ↔ item = here ∨ item ∈ front ++ back := by
  simp [or_left_comm]

/-- What marks items apart marks the others apart from the one in their
midst. -/
theorem ne_of_amid
    (mark : α → β)
    (different : ((front ++ here :: back).map mark).Nodup)
    (isOther : item ∈ front ++ back) :
    mark item ≠ mark here := by
  rw [List.map_append, List.map_cons, List.nodup_middle,
    List.nodup_cons, ← List.map_append] at different
  intro same
  exact different.1 (List.mem_map.mpr ⟨item, isOther, same⟩)

end Amid

namespace Service

/-- A service with limits and a disk, before anything has happened. -/
def opened
    (limit highWater : Int)
    (lifetime : Binary64)
    (disk : Disk) :
    Service where
  scene := { registry := .opened limit highWater lifetime, disk }

/-- What can happen next. -/
inductive Step (server : RenderServer) : Service → Service → Prop
  | admitted
      {scene : Scene}
      {live : List LiveJob}
      {request : RenderRequest}
      {submission : Submission}
      {now later : Binary64}
      {job : Job}
      (accepted : request.submission = .ok submission)
      (plain : IsPlainId submission.jobId)
      (taken :
        (scene.enrollment request submission now later).result = .ok job) :
      Step server { scene, live } {
        scene :=
          (scene.applied
            (scene.enrollment request submission now later)).withTask
              submission.jobId
        live :=
          live ++ [{ submission, rest := submission.run server }] }
  | refused
      {scene : Scene}
      {live : List LiveJob}
      {request : RenderRequest}
      {submission : Submission}
      {now later : Binary64}
      {failure : Failure}
      (accepted : request.submission = .ok submission)
      (plain : IsPlainId submission.jobId)
      (failed :
        (scene.enrollment request submission now later).result =
          .error failure) :
      Step server { scene, live } {
        scene :=
          scene.applied (scene.enrollment request submission now later)
        live }
  | called
      {before after : Scene}
      {front back : List LiveJob}
      {submission : Submission}
      {call : Call}
      {next : call.Answer → Program (Outcome Unit)}
      {answer : call.Answer}
      (answered : before.Answers server.tempDirectory call answer after) :
      Step server {
        scene := before
        live := front ++ { submission, rest := .step call next } :: back } {
        scene := after
        live := front ++ { submission, rest := next answer } :: back }
  | ended
      {scene : Scene}
      {front back : List LiveJob}
      {submission : Submission}
      {outcome : Outcome Unit} :
      Step server {
        scene
        live := front ++ { submission, rest := .done outcome } :: back } {
        scene := scene.withoutTask submission.jobId
        live := front ++ back }

/-- What a service went through from its start to what it is now, the latest
first. -/
inductive History
    (server : RenderServer)
    (start : Service) :
    List Service → Service → Prop
  | started : History server start [] start
  | went
      {past : List Service}
      {before after : Service}
      (history : History server start past before)
      (steps : Step server before after) :
      History server start (before :: past) after

end Service

/-! ## Services in a world -/

namespace World

/-- What the jobs in a world have around them. -/
def scene (world : World) : Scene where
  registry := world.registry
  disk := world.disk

theorem fileAt?_keepDisk
    {world : World}
    {outcome : Outcome Disk}
    {path : Path}
    (spares :
      ∀ disk, outcome = .ok disk →
        disk.fileAt? path = world.disk.fileAt? path) :
    (world.keepDisk outcome).2.disk.fileAt? path =
      world.disk.fileAt? path := by
  cases outcome with
  | ok disk => exact spares disk rfl
  | error failure => rfl

theorem registry_keepDisk
    (world : World)
    (outcome : Outcome Disk) :
    (world.keepDisk outcome).2.registry = world.registry := by
  cases outcome <;> rfl

/-- The encoder changes the file at its last argument at most. -/
theorem fileAt?_encode
    (world : World)
    (arguments : List String)
    {directory path : Path}
    (inside :
      ∀ target ∈ (Call.encode arguments).targets, target.IsIn directory)
    (isIn : path.IsIn directory)
    (noTarget : path ∉ (Call.encode arguments).targets) :
    (world.encode arguments).2.disk.fileAt? path =
      world.disk.fileAt? path := by
  unfold encode
  dsimp only
  split
  · rfl
  · split
    · rename_i content output _ isLast
      simp only [Call.targets, isLast, Option.map_some, Option.toList_some,
        List.mem_singleton, forall_eq] at inside noTarget
      exact fileAt?_keepDisk fun disk isWritten =>
        Disk.fileAt?_write_of_ne inside isIn noTarget isWritten
    · rfl

theorem registry_encode
    (world : World)
    (arguments : List String) :
    (world.encode arguments).2.registry = world.registry := by
  unfold encode
  dsimp only
  split
  · rfl
  · split
    · exact registry_keepDisk _ _
    · rfl

/-- A download from a bucket changes its destination at most. -/
theorem fileAt?_downloadObject
    {world : World}
    {bucket : Bucket}
    (isRemote : world.storage = .remote bucket)
    (key : String)
    {destination directory path : Path}
    (inside : destination.IsIn directory)
    (isIn : path.IsIn directory)
    (different : path ≠ destination) :
    (world.downloadObject key destination).2.disk.fileAt? path =
      world.disk.fileAt? path := by
  unfold downloadObject ObjectStorage.download Bucket.download
  simp only [isRemote]
  split
  · rename_i written after isWritten
    split at isWritten
    · cases isWritten
    · exact Disk.fileAt?_write_of_ne inside isIn different
        (Prod.mk.inj isWritten).1
  · rfl

/-- An upload into a bucket changes nothing on the disk. -/
theorem scene_storeFile
    {world : World}
    {bucket : Bucket}
    (isRemote : world.storage = .remote bucket)
    (source : Path)
    (key contentType : String) :
    (world.storeFile source key contentType).2.scene = world.scene := by
  unfold storeFile ObjectStorage.upload
  split
  · rfl
  · simp only [isRemote]
    rfl

/-- A world whose storage is remote answers as a service may be answered. -/
theorem answer_possible
    {world : World}
    {bucket : Bucket}
    (isRemote : world.storage = .remote bucket)
    (directory : Path)
    {call : Call}
    (noDirectory :
      ∀ path, call = .holds path → world.disk.isDirectory path = false) :
    world.scene.Answers directory call (world.answer call).1
      (world.answer call).2.scene := by
  cases call with
  | makeDirectories path => exact ⟨rfl, rfl⟩
  | removeFiles paths => exact ⟨rfl, rfl⟩
  | tell update => exact ⟨world.now, world.now, rfl, rfl⟩
  | holds path => exact ⟨rfl, rfl, noDirectory path rfl⟩
  | writeFile target content =>
      refine ⟨registry_keepDisk _ _, fun inside path isIn elsewhere => ?_⟩
      exact fileAt?_keepDisk fun disk isWritten =>
        Disk.fileAt?_write_of_ne (inside target List.mem_cons_self) isIn
          (List.ne_of_not_mem_cons elsewhere) isWritten
  | appendFile target content =>
      refine ⟨registry_keepDisk _ _, fun inside path isIn elsewhere => ?_⟩
      exact fileAt?_keepDisk fun disk isWritten =>
        Disk.fileAt?_append_of_ne (inside target List.mem_cons_self) isIn
          (List.ne_of_not_mem_cons elsewhere) isWritten
  | encode arguments =>
      exact ⟨registry_encode world arguments,
        fun inside path isIn elsewhere =>
          fileAt?_encode world arguments inside isIn elsewhere⟩
  | download key destination =>
      exact ⟨rfl, fun inside path isIn elsewhere =>
        fileAt?_downloadObject isRemote key (inside destination
          List.mem_cons_self) isIn (List.ne_of_not_mem_cons elsewhere)⟩
  | upload source key contentType =>
      have same := scene_storeFile isRemote source key contentType
      exact ⟨congrArg Scene.registry same, fun _ path _ _ =>
        congrArg (fun scene => scene.disk.fileAt? path) same⟩
  | _ => exact ⟨rfl, fun _ _ _ _ => rfl⟩

theorem storage_keepDisk
    (world : World)
    (outcome : Outcome Disk) :
    (world.keepDisk outcome).2.storage = world.storage := by
  cases outcome <;> rfl

/-- A remote storage stays remote. -/
theorem storage_answer
    {world : World}
    {bucket : Bucket}
    (isRemote : world.storage = .remote bucket)
    (call : Call) :
    ∃ later, (world.answer call).2.storage = .remote later := by
  cases call with
  | writeFile target content =>
      exact ⟨bucket, (storage_keepDisk _ _).trans isRemote⟩
  | appendFile target content =>
      exact ⟨bucket, (storage_keepDisk _ _).trans isRemote⟩
  | encode arguments =>
      refine ⟨bucket, Eq.trans ?_ isRemote⟩
      simp only [answer, encode]
      split
      · rfl
      · split
        · exact storage_keepDisk _ _
        · rfl
  | download key destination =>
      simp only [answer, downloadObject, ObjectStorage.download, isRemote]
      split <;> exact ⟨_, rfl⟩
  | upload source key contentType =>
      simp only [answer, storeFile, ObjectStorage.upload, isRemote]
      split
      · exact ⟨bucket, isRemote⟩
      · exact ⟨_, rfl⟩
  | _ => exact ⟨bucket, isRemote⟩

/-- Whether a program looks for files only where no directory stands. -/
def showsNoDirectory
    {α : Type}
    (world : World) :
    Program α → Bool
  | .done _ => true
  | .step call next =>
      let answered := world.answer call
      (match call with
      | .holds path => !world.disk.isDirectory path
      | _ => true) &&
        answered.2.showsNoDirectory (next answered.1)

/-- One job of a service runs to its end in a world. -/
theorem history_of_run
    {server : RenderServer}
    {start : Service}
    {submission : Submission}
    {front back : List LiveJob}
    {program : Program (Outcome Unit)}
    {world : World}
    {bucket : Bucket}
    (isRemote : world.storage = .remote bucket)
    (noDirectory : world.showsNoDirectory program = true)
    {past : List Service}
    (history :
      Service.History server start past {
        scene := world.scene
        live := front ++ { submission, rest := program } :: back }) :
    ∃ between,
      Service.History server start between {
        scene := (world.run program).2.scene
        live :=
          front ++
            { submission, rest := .done (world.run program).1 } :: back } := by
  induction program generalizing world bucket past with
  | done outcome => exact ⟨past, history⟩
  | step call next inductionHypothesis =>
      simp only [showsNoDirectory, Bool.and_eq_true] at noDirectory
      obtain ⟨here, later⟩ := noDirectory
      obtain ⟨_, stillRemote⟩ := storage_answer isRemote call
      refine inductionHypothesis (world.answer call).1 stillRemote later
        (history.went (.called (answer_possible isRemote _ ?_)))
      rintro path rfl
      simpa using here

end World

end Montage
