import Montage.Proofs.Asset.Calls
import Montage.Proofs.Asset.Names
import Montage.Proofs.Storage.Calls
import Montage.Proofs.Storage.Upload
import Montage.Proofs.Work.Beside

namespace Montage

/-!
# What downloads have around them

Downloads see the disk and the objects of the storage. Others leave the files
of the job's assets as they stand, and a call that is about one of them leaves
the other ones; what a call that succeeds leaves at its own file is known.
-/

/-- Calls about files of a job's assets, but not about a certain one. -/
def Workspace.Spares (workspace : Workspace) (path : Path) (call : Call) : Prop :=
  ∀ target ∈ call.targets, workspace.OwnsAsset target ∧ target ≠ path

/-- The download of another asset is made of such calls. -/
theorem Workspace.spares_download
    {workspace : Workspace}
    {path other : Path}
    (owns : workspace.OwnsAsset other)
    (different : other ≠ path) :
    AllowsDownload (workspace.Spares path) other where
  request _ := by simp [Spares, Call.targets]
  writeFile _ := by simpa [Spares, Call.targets] using ⟨owns, different⟩
  appendFile _ := by simpa [Spares, Call.targets] using ⟨owns, different⟩
  download _ := by simpa [Spares, Call.targets] using ⟨owns, different⟩

/-- The disk, and the objects that are stored under keys. -/
structure AssetScene where
  disk : Disk
  object? : String → Option Bytes

namespace AssetScene

/-- The file at a path stays as it is. -/
def Keeps (before after : AssetScene) (path : Path) : Prop :=
  ∀ content,
    before.disk.fileAt? path = some content →
    after.disk.fileAt? path = some content

theorem Keeps.trans
    {first second third : AssetScene}
    {path : Path}
    (earlier : first.Keeps second path)
    (later : second.Keeps third path) :
    first.Keeps third path :=
  fun content stands => later content (earlier content stands)

theorem keeps_of_eq
    {before after : AssetScene}
    {path : Path}
    (same : after.disk.fileAt? path = before.disk.fileAt? path) :
    before.Keeps after path :=
  fun _ stands => same.trans stands

/--
What an answer tells of the file that a call is about. A file that was opened
is empty, or as it was written; to write at its end may fail after a part was
written; and an object that was copied stands in the file. Of other answers,
among them that of a copy that failed, nothing is known.
-/
def Tells (before : AssetScene) : (call : Call) → call.Answer → AssetScene → Prop
  | .writeFile path content, .ok _, after =>
      after.disk.fileAt? path = some content
  | .appendFile path block, .ok _, after =>
      ∃ earlier,
        before.disk.fileAt? path = some earlier ∧
        after.disk.fileAt? path = some (earlier ++ block)
  | .appendFile path block, .error _, after =>
      ∀ earlier,
        before.disk.fileAt? path = some earlier →
        ∃ written,
          written <+: block ∧
          after.disk.fileAt? path = some (earlier ++ written)
  | .download key path, .ok _, after =>
      ∃ content,
        after.object? key = some content ∧
        after.disk.fileAt? path = some content
  | _, _, _ => True

/-- The scene around the downloads of a job. -/
def surroundings (workspace : Workspace) : Surroundings AssetScene where
  meanwhile before after :=
    ∀ path, workspace.OwnsAsset path → before.Keeps after path
  answers before call answer after :=
    before.Tells call answer after ∧
    ((∀ target ∈ call.targets, workspace.OwnsAsset target) →
      ∀ path, workspace.OwnsAsset path → path ∉ call.targets →
        before.Keeps after path)

/-- In these surroundings a file is touched by calls about it alone, and their
answers tell what they leave. -/
structure Guards
    (surroundings : Surroundings AssetScene)
    (path : Path) :
    Prop where
  meanwhile :
    ∀ {before after},
      surroundings.meanwhile before after → before.Keeps after path
  answers :
    ∀ {before after} {call : Call} {answer : call.Answer},
      surroundings.answers before call answer after →
      before.Tells call answer after
  elsewhere :
    ∀ {before after} {call : Call} {answer : call.Answer},
      surroundings.answers before call answer after →
      call.targets = [] →
      before.Keeps after path

/-- A file stays as it is during calls that are about no file. -/
theorem Guards.keeps_of_run
    {surroundings : Surroundings AssetScene}
    {path : Path}
    (guards : Guards surroundings path)
    {α : Type}
    {program : Program α}
    {state final : AssetScene}
    {events : List (Event AssetScene)}
    {value : α}
    (run : Run surroundings state program events value final)
    (quiet : ∀ event ∈ events, event.call.targets = []) :
    state.Keeps final path := by
  induction run with
  | done state value => exact fun _ => id
  | step passed answered _ inductionHypothesis =>
      rw [List.forall_mem_cons] at quiet
      exact ((guards.meanwhile passed).trans
        (guards.elsewhere answered quiet.1)).trans
          (inductionHypothesis quiet.2)

variable {workspace : Workspace} {path : Path}

theorem surroundings_guards
    (owns : workspace.OwnsAsset path) :
    Guards (surroundings workspace) path where
  meanwhile passes := passes path owns
  answers := And.left
  elsewhere answered noTargets :=
    answered.2 (by simp [noTargets]) path owns (by simp [noTargets])

/-- So it is where others spare the file. -/
theorem sharedWith_guards
    (owns : workspace.OwnsAsset path) :
    Guards ((surroundings workspace).sharedWith (workspace.Spares path))
      path where
  meanwhile passes := by
    induction passes with
    | refl => exact fun _ => id
    | tail _ stirred inductionHypothesis =>
        apply inductionHypothesis.trans
        rcases stirred with passed | ⟨call, answer, spares, answered⟩
        · exact passed path owns
        · apply answered.2 (fun target isTarget => (spares target isTarget).1)
            path owns
          intro isTarget
          exact (spares path isTarget).2 rfl
  answers := (surroundings_guards owns).answers
  elsewhere := (surroundings_guards owns).elsewhere

end AssetScene

/-! ## Worlds -/

/-- Calls that downloads make, or that choose among downloads. -/
def Call.isFetching : Call → Bool
  | .request _
  | .writeFile _ _
  | .appendFile _ _
  | .download _ _
  | .schedule => true
  | _ => false

namespace World

/-- What downloads see of a world. -/
def assetScene (world : World) : AssetScene where
  disk := world.disk
  object? := world.storage.objectAt? world.disk

/-- A world that keeps the objects of its storage apart from the files of jobs,
with what the network answers. -/
def serving (web : List (String × Outcome Reply)) : World where
  script := { web }
  shelf := { directory := .ofText "/fonts", systemFont := "" }
  storage := .directory {
    root := .ofText "/kept"
    publicBase := "http://results.test/storage" }
  disk := { entries := [(["kept"], .directory), (["work"], .directory)] }
  registry := { limit := 1, highWater := 5, lifetime := 60 }

variable {world : World} {workspace : Workspace}

/-- To make directories and to write one file of an asset leaves those of the
others. -/
theorem keeps_download
    {destination path : Path}
    (isAsset : workspace.OwnsAsset destination)
    (owns : workspace.OwnsAsset path)
    (different : path ≠ destination)
    (storage : ObjectStorage)
    {disk : Disk}
    {key : String}
    {content : Bytes}
    (stands : disk.fileAt? path = some content) :
    (storage.download disk key destination).disk.fileAt? path =
      some content := by
  cases storage with
  | directory store =>
      have gains := store.gains_of_prepare disk key
      have stays := Disk.fileAt?_of_stays gains.stays stands
      simp only [ObjectStorage.download, LocalStorage.download]
      rcases prepared : store.prepare disk key with ⟨failure | file, made⟩
      · rw [prepared] at stays
        exact stays
      · rw [prepared] at stays
        dsimp only
        cases copy :
            made.copy file destination
              (.sameFile file.shown (quoted destination.toText)) with
        | error failure => exact stays
        | ok copied =>
            exact (Disk.fileAt?_copy_of_ne isAsset.isIn owns.isIn different
              copy).trans stays
  | remote bucket =>
      simp only [ObjectStorage.download, Bucket.download]
      split
      · rename_i written after isWritten
        split at isWritten
        · cases isWritten
        · exact (Disk.fileAt?_write_of_ne isAsset.isIn owns.isIn different
            (Prod.mk.inj isWritten).1).trans stands
      · exact stands

/-- An object that was copied stands in the storage and in the file. -/
theorem stored_of_download
    {storage : ObjectStorage}
    {disk : Disk}
    {key : String}
    {destination : Path}
    (downloaded : (storage.download disk key destination).result = .ok ()) :
    let effect := storage.download disk key destination
    ∃ content,
      effect.storage.objectAt? effect.disk key = some content ∧
      effect.disk.fileAt? destination = some content := by
  cases storage with
  | directory store =>
      simp only [ObjectStorage.download, LocalStorage.download] at downloaded ⊢
      rcases prepared : store.prepare disk key with ⟨failure | file, made⟩
      · rw [prepared] at downloaded
        cases downloaded
      · rw [prepared] at downloaded
        have isFile := LocalStorage.file_of_prepare prepared
        dsimp only at downloaded ⊢
        cases copy :
            made.copy file destination
              (.sameFile file.shown (quoted destination.toText)) with
        | error failure =>
            rw [copy] at downloaded
            cases downloaded
        | ok copied =>
            obtain ⟨content, written, stays⟩ := Disk.fileAt?_copy copy
            rw [isFile] at stays
            exact ⟨content, stays, written⟩
  | remote bucket =>
      simp only [ObjectStorage.download, Bucket.download] at downloaded ⊢
      cases object :
          getField? key (bucket.note (.download key destination)).objects with
      | none =>
          simp only [object] at downloaded
          cases downloaded
      | some content =>
          simp only [object] at downloaded ⊢
          cases isWritten : disk.write destination content with
          | error failure =>
              simp only [isWritten] at downloaded
              cases downloaded
          | ok written =>
              simp only
              obtain ⟨_, _, _, stands⟩ := Disk.changedAt_of_write isWritten
              exact ⟨content, object, stands⟩

/-- What is written on the disk is kept, and a failure leaves the disk. -/
theorem disk_keepDisk_cases
    (world : World)
    (outcome : Outcome Disk) :
    (∃ disk,
      outcome = .ok disk ∧
      world.keepDisk outcome = (.ok (), { world with disk })) ∨
    ∃ failure,
      outcome = .error failure ∧
      world.keepDisk outcome = (.error failure, world) := by
  cases outcome with
  | ok disk => exact .inl ⟨disk, rfl, rfl⟩
  | error failure => exact .inr ⟨failure, rfl, rfl⟩

/-- A world answers the calls of downloads as the scene around them may. -/
theorem answer_assetScene
    {call : Call}
    (fetching : call.isFetching = true) :
    (AssetScene.surroundings workspace).answers world.assetScene call
      (world.answer call).1 (world.answer call).2.assetScene := by
  cases call with
  | request address => exact ⟨trivial, fun _ _ _ _ _ => id⟩
  | schedule => exact ⟨trivial, fun _ _ _ _ _ => id⟩
  | writeFile target content =>
      simp only [World.answer]
      rcases world.disk_keepDisk_cases (world.disk.write target content) with
        ⟨disk, isWritten, kept⟩ | ⟨failure, _, kept⟩
      · rw [kept]
        obtain ⟨_, _, _, stands⟩ := Disk.changedAt_of_write isWritten
        refine ⟨stands, ?_⟩
        intro areAssets path owns different
        have isAsset := areAssets target (List.mem_singleton_self target)
        exact AssetScene.keeps_of_eq <|
          Disk.fileAt?_write_of_ne isAsset.isIn owns.isIn
            (by simpa [Call.targets] using different) isWritten
      · rw [kept]
        exact ⟨trivial, fun _ _ _ _ _ => id⟩
  | appendFile target block =>
      simp only [World.answer]
      rcases world.disk_keepDisk_cases (world.disk.append target block) with
        ⟨disk, isWritten, kept⟩ | ⟨failure, _, kept⟩
      · rw [kept]
        refine ⟨Disk.fileAt?_append isWritten, ?_⟩
        intro areAssets path owns different
        have isAsset := areAssets target (List.mem_singleton_self target)
        exact AssetScene.keeps_of_eq <|
          Disk.fileAt?_append_of_ne isAsset.isIn owns.isIn
            (by simpa [Call.targets] using different) isWritten
      · rw [kept]
        refine ⟨?_, fun _ _ _ _ _ => id⟩
        intro earlier stands
        exact ⟨[], List.nil_prefix, by simpa using stands⟩
  | download key target =>
      constructor
      · have tells :
            ∀ answer,
              (world.storage.download world.disk key target).result = answer →
              world.assetScene.Tells (.download key target) answer
                (world.downloadObject key target).2.assetScene := by
          intro answer isAnswer
          cases answer with
          | ok value => exact stored_of_download isAnswer
          | error failure => trivial
        exact tells _ rfl
      · intro areAssets path owns different content stands
        have isAsset := areAssets target (List.mem_singleton_self target)
        exact keeps_download isAsset owns
          (by simpa [Call.targets] using different) world.storage stands
  | _ => cases fetching

/-- What a world makes of downloads is one of their runs. -/
theorem run_assetScene
    {α : Type}
    {program : Program α}
    (limited : program.Limited fun call => call.isFetching = true)
    (workspace : Workspace)
    (world : World) :
    ∃ events,
      Run (AssetScene.surroundings workspace) world.assetScene program events
        (world.run program).1 (world.run program).2.assetScene := by
  induction limited generalizing world with
  | done value => exact ⟨[], .done _ value⟩
  | @step call next fetching _ inductionHypothesis =>
      obtain ⟨events, rest⟩ :=
        inductionHypothesis (world.answer call).1 (world.answer call).2
      exact ⟨_, .step (fun _ _ _ => id) (answer_assetScene fetching) rest⟩

end World

end Montage
