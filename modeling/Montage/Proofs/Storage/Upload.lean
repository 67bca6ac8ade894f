import Montage.Proofs.Disk.Files
import Montage.Proofs.Storage.Key
import Montage.Proofs.Storage.Local
import Montage.Publish.Delivery
import Montage.Scenario.World

namespace Montage

/-!
# The address of a result

A result that was uploaded stands in the storage under its key, and its public
address is the one of that key. The address leads back to the key exactly if
the project is literal: the address is written without escapes, but read with
them.
-/

namespace ObjectStorage

/-- The object of a key. -/
def objectAt?
    (storage : ObjectStorage)
    (disk : Disk)
    (key : String) :
    Option Bytes :=
  match storage with
  | directory store => disk.fileAt? (store.file key)
  | remote bucket => getField? key bucket.objects

/-- What was uploaded stands under its key, and its address is told. -/
structure IsStored
    (storage : ObjectStorage)
    (effect : Effect String)
    (source : Path)
    (key address : String) :
    Prop where
  told : address = storage.address key
  stands :
    ∃ content,
      effect.storage.objectAt? effect.disk key = some content ∧
      effect.disk.fileAt? source = some content

theorem isStored_of_directory
    {store : LocalStorage}
    {disk : Disk}
    {source : Path}
    {key address : String}
    {contentType : Option String}
    (uploaded :
      ((directory store).upload disk source key contentType).result =
        .ok address) :
    (directory store).IsStored
      ((directory store).upload disk source key contentType)
      source key address := by
  simp only [upload, LocalStorage.upload] at uploaded ⊢
  cases prepared : store.prepare disk key with
  | mk result made =>
  rw [prepared] at uploaded
  cases result with
  | error failure => cases uploaded
  | ok file =>
      have isFile := LocalStorage.file_of_prepare prepared
      dsimp only at uploaded ⊢
      cases copy :
          made.copy source file
            (.sameFile (quoted source.toText) file.shown) with
      | error failure =>
          rw [copy] at uploaded
          cases uploaded
      | ok copied =>
          rw [copy] at uploaded
          cases uploaded
          obtain ⟨content, written, stays⟩ := Disk.fileAt?_copy copy
          refine ⟨rfl, content, ?_, stays⟩
          rw [isFile] at written
          exact written

theorem isStored_of_remote
    {bucket : Bucket}
    {disk : Disk}
    {source : Path}
    {key address : String}
    {contentType : Option String}
    (uploaded :
      ((remote bucket).upload disk source key contentType).result =
        .ok address) :
    (remote bucket).IsStored
      ((remote bucket).upload disk source key contentType)
      source key address := by
  simp only [upload, Bucket.upload] at uploaded ⊢
  cases isRead : disk.read source with
  | error failure =>
      rw [isRead] at uploaded
      cases uploaded
  | ok content =>
      rw [isRead] at uploaded
      cases uploaded
      exact ⟨rfl, content, getField?_setField_self _ _ _,
        Disk.read_eq_ok_iff.mp isRead⟩

theorem isStored_of_upload
    {storage : ObjectStorage}
    {disk : Disk}
    {source : Path}
    {key address : String}
    {contentType : Option String}
    (uploaded :
      (storage.upload disk source key contentType).result = .ok address) :
    storage.IsStored (storage.upload disk source key contentType)
      source key address := by
  cases storage with
  | directory store => exact isStored_of_directory uploaded
  | remote bucket => exact isStored_of_remote uploaded

end ObjectStorage

/-- The upload of a result is an upload under its key. -/
theorem World.upload_of_uploadResult
    {world : World}
    {file : Path}
    {projectId : Option String}
    {jobId address : String}
    (uploaded :
      (world.run (uploadResult file projectId jobId)).1 = .ok address) :
    let effect :=
      world.storage.upload world.disk file (resultKey projectId jobId)
        (some "video/mp4")
    let after := (world.run (uploadResult file projectId jobId)).2
    effect.result = .ok address ∧
    after.storage = effect.storage ∧
    after.disk = effect.disk := by
  simp only [run, uploadResult, Program.run, answer, storeFile] at uploaded ⊢
  cases refused : world.script.uploadFailure with
  | some failure =>
      rw [refused] at uploaded
      cases uploaded
  | none =>
      rw [refused] at uploaded
      generalize
        world.storage.upload world.disk file (resultKey projectId jobId)
          (some "video/mp4") = effect at uploaded ⊢
      rcases effect with ⟨failure | told, storage, disk⟩
      · cases uploaded
      · cases uploaded
        exact ⟨rfl, rfl, rfl⟩

/-- What uploaded the result of a job stored it under the key of the result. -/
theorem World.isStored_of_uploadResult
    {world : World}
    {file : Path}
    {projectId : Option String}
    {jobId address : String}
    (uploaded :
      (world.run (uploadResult file projectId jobId)).1 = .ok address) :
    let after := (world.run (uploadResult file projectId jobId)).2
    world.storage.IsStored
      { result := .ok address, storage := after.storage, disk := after.disk }
      file (resultKey projectId jobId) address := by
  obtain ⟨isDone, storage, disk⟩ := World.upload_of_uploadResult uploaded
  have stored := ObjectStorage.isStored_of_upload isDone
  exact {
    told := stored.told
    stands := by
      rw [storage, disk]
      exact stored.stands }

/-- The address of a result leads back to its key exactly if the project is
literal; the result stands under the key in any case. -/
theorem uploaded_address_leads_back_iff
    (world : World)
    (file : Path)
    {projectId : Option String}
    (plain : IsPlainKey (projectName projectId))
    {jobId : String}
    (isId : ∀ character ∈ jobId.toList, isJobIdCharacter character = true)
    {address : String}
    (uploaded :
      (world.run (uploadResult file projectId jobId)).1 = .ok address) :
    let after := (world.run (uploadResult file projectId jobId)).2
    let key := resultKey projectId jobId
    (world.storage.key? address = some key ↔
      IsLiteral (projectName projectId).toList) ∧
    ∃ content,
      after.storage.objectAt? after.disk key = some content ∧
      after.disk.fileAt? file = some content := by
  intro after key
  obtain ⟨told, stands⟩ := World.isStored_of_uploadResult uploaded
  refine ⟨?_, stands⟩
  rw [told, ← isLiteral_resultKey_iff projectId isId]
  exact keyOfAddress?_publicAddress_iff _ (isPlainKey_resultKey plain isId)

/-- A question mark in the project cuts the key of the address short. -/
theorem question_mark_loses_key :
    let storage : LocalStorage :=
      { root := .ofText "/kept", publicBase := "http://results.test/storage" }
    let world : World := {
      shelf := { directory := .ofText "/fonts", systemFont := "" }
      storage := .directory storage
      disk := {
        entries := [(["kept"], .directory), (["out.mp4"], .file [102])] }
      registry := { limit := 1, highWater := 5, lifetime := 60 } }
    let address := "http://results.test/storage/final/a?b/final_j1.mp4"
    (world.run (uploadResult (.ofText "/out.mp4") (some "a?b") "j1")).1 =
      .ok address ∧
    world.storage.key? address ≠ some "final/a?b/final_j1.mp4" := by
  intro storage world address
  have plain : IsPlainKey (projectName (some "a?b")) :=
    List.all_eq_true.mp (by decide)
  have isId : ∀ character ∈ "j1".toList, isJobIdCharacter character = true :=
    List.all_eq_true.mp (by decide)
  have uploaded :
      (world.run (uploadResult (.ofText "/out.mp4") (some "a?b") "j1")).1 =
        .ok address := by
    rfl
  refine ⟨uploaded, ?_⟩
  intro leadsBack
  have literal :=
    (uploaded_address_leads_back_iff world (.ofText "/out.mp4") plain isId
      uploaded).1.mp leadsBack
  exact literal.noQuery (by decide)

end Montage
