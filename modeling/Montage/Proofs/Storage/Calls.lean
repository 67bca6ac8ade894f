import Montage.Proofs.Storage.Local

namespace Montage

/-!
# What calls of a storage leave on the disk

Every call makes the directories above the file of its key. After that, an
upload that succeeds writes this file, and a download that succeeds writes its
destination; nothing else is touched.
-/

namespace Disk

/-- A file was written at a place, and nothing else changed. -/
structure Receives
    (before : Disk)
    (place : Place)
    (content : Bytes)
    (after : Disk) :
    Prop where
  changed : before.ChangedAt after place
  written : after.entry? place = some (.file content)

end Disk

namespace LocalStorage

variable {storage : LocalStorage} {key : String} {disk made : Disk}

/-- A key is accepted if its file is below the root, and the directories above
it could be made. -/
theorem prepare_eq_ok_iff
    {file : Path} :
    storage.prepare disk key = (.ok file, made) ↔
      file = storage.file key ∧
      (storage.file key).isUsable = true ∧
      (storage.file key).isWithin storage.root = true ∧
      disk.makeDirectories (storage.file key).parent = (.ok (), made) := by
  unfold prepare
  dsimp only
  cases usable : (storage.file key).isUsable with
  | false =>
      obtain ⟨failure, refused, _⟩ := Path.refusal?_of_not_isUsable usable
      simp [refused]
  | true =>
      rw [Path.refusal?_of_isUsable usable]
      cases within : (storage.file key).isWithin storage.root with
      | false => simp
      | true =>
          rcases disk.makeDirectories (storage.file key).parent with
            ⟨failure | done, after⟩ <;>
            simp [eq_comm]

/-- Whether a key is accepted or not, only directories are made. -/
theorem gains_of_prepare
    (storage : LocalStorage)
    (disk : Disk)
    (key : String) :
    Disk.Gains (storage.file key).parent.parts disk
      (storage.prepare disk key).2 := by
  have gains := Disk.gains_of_makeDirectories disk (storage.file key).parent
  unfold prepare
  dsimp only
  split
  · exact Disk.Gains.refl _ disk
  · split
    · exact Disk.Gains.refl _ disk
    · split
      · rename_i isMade
        rw [isMade] at gains
        exact gains
      · rename_i isMade
        rw [isMade] at gains
        exact gains

theorem gains_of_prepared
    {result : Outcome Path}
    (prepared : storage.prepare disk key = (result, made)) :
    Disk.Gains (storage.file key).parent.parts disk made := by
  have gains := storage.gains_of_prepare disk key
  rwa [prepared] at gains

/-- What is asked for is only looked at. -/
theorem disk_of_holds
    (storage : LocalStorage)
    (disk : Disk)
    (key : String) :
    (storage.holds disk key).2 = (storage.prepare disk key).2 := by
  unfold holds
  rcases storage.prepare disk key with ⟨failure | file, after⟩ <;> rfl

/-- An upload that succeeds writes the file of its key, with the bytes of the
source. -/
theorem exists_receives_of_upload
    {source : Path}
    {address : String}
    (uploaded : (storage.upload disk source key).1 = .ok address) :
    ∃ made content,
      storage.prepare disk key = (.ok (storage.file key), made) ∧
      Disk.fileAt? (storage.upload disk source key).2 source = some content ∧
      made.locate (storage.file key) = .ok (storage.file key).plainParts ∧
      made.Receives (storage.file key).plainParts content
        (storage.upload disk source key).2 := by
  unfold upload at uploaded ⊢
  rcases prepared : storage.prepare disk key with ⟨failure | file, made⟩
  · rw [prepared] at uploaded
    cases uploaded
  · rw [prepared] at uploaded
    obtain rfl := file_of_prepare prepared
    dsimp only at uploaded ⊢
    cases isCopied :
        made.copy source (storage.file key)
          (.sameFile (quoted source.toText) (storage.file key).shown) with
    | error failure =>
        rw [isCopied] at uploaded
        cases uploaded
    | ok copied =>
        obtain ⟨content, place, stands, elsewhere, located, changed, written⟩ :=
          Disk.changedAt_of_copy isCopied
        obtain rfl := Disk.locate_eq_plainParts located
        have stays := (changed.fileAt?_elsewhere elsewhere).trans stands
        exact ⟨made, content, rfl, stays, located, {
          changed
          written := ((changed.fileAt?_self located content).mp written).2 }⟩

/-- An upload that fails makes only directories. -/
theorem disk_of_upload_error
    {source : Path}
    {failure : Failure}
    (refused : (storage.upload disk source key).1 = .error failure) :
    (storage.upload disk source key).2 = (storage.prepare disk key).2 := by
  unfold upload at refused ⊢
  rcases prepared : storage.prepare disk key with ⟨cause | file, made⟩
  · rfl
  · rw [prepared] at refused
    dsimp only at refused ⊢
    cases isCopied :
        made.copy source file
          (.sameFile (quoted source.toText) file.shown) with
    | error cause => rfl
    | ok copied =>
        rw [isCopied] at refused
        cases refused

/-- A download that succeeds writes its destination, with the bytes of the file
of its key. -/
theorem exists_receives_of_download
    {destination : Path}
    (downloaded : (storage.download disk key destination).1 = .ok ()) :
    ∃ made content,
      storage.prepare disk key = (.ok (storage.file key), made) ∧
      made.fileAt? (storage.file key) = some content ∧
      Disk.fileAt? (storage.download disk key destination).2 destination =
        some content ∧
      made.Receives destination.plainParts content
        (storage.download disk key destination).2 := by
  unfold download at downloaded ⊢
  rcases prepared : storage.prepare disk key with ⟨failure | file, made⟩
  · rw [prepared] at downloaded
    cases downloaded
  · rw [prepared] at downloaded
    obtain rfl := file_of_prepare prepared
    dsimp only at downloaded ⊢
    cases isCopied :
        made.copy (storage.file key) destination
          (.sameFile (storage.file key).shown
            (quoted destination.toText)) with
    | error failure =>
        rw [isCopied] at downloaded
        cases downloaded
    | ok copied =>
        obtain ⟨content, place, stands, _, located, changed, written⟩ :=
          Disk.changedAt_of_copy isCopied
        obtain rfl := Disk.locate_eq_plainParts located
        exact ⟨made, content, rfl, stands, written, {
          changed
          written := ((changed.fileAt?_self located content).mp written).2 }⟩

/-- A download that fails makes only directories. -/
theorem disk_of_download_error
    {destination : Path}
    {failure : Failure}
    (refused : (storage.download disk key destination).1 = .error failure) :
    (storage.download disk key destination).2 =
      (storage.prepare disk key).2 := by
  unfold download at refused ⊢
  rcases prepared : storage.prepare disk key with ⟨cause | file, made⟩
  · rfl
  · rw [prepared] at refused
    dsimp only at refused ⊢
    cases isCopied :
        made.copy file destination
          (.sameFile file.shown (quoted destination.toText)) with
    | error cause => rfl
    | ok copied =>
        rw [isCopied] at refused
        cases refused

end LocalStorage

end Montage
