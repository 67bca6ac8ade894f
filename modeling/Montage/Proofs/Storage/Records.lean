import Montage.Proofs.Storage.Calls

namespace Montage

/-!
# Calls of a storage and what they change

A call of a storage is recorded with its answer and the disk it leaves. Below
the root, it makes folders on the way to the file of its key, and an upload that
succeeds writes this file; elsewhere, a download that succeeds writes its
destination.
-/

/-! ## Calls -/

/-- What a storage can be asked for. -/
inductive StorageCall
  | upload (source : Path) (key : String)
  | download (key : String) (destination : Path)
  | holds (key : String)

/-- What a call returns if it does not fail. -/
inductive StorageAnswer
  | address (text : String)
  | copied
  | found (isThere : Bool)
deriving DecidableEq

/-- A call, its answer, and the disk it left. -/
structure StorageRecord where
  call : StorageCall
  answer : Outcome StorageAnswer
  after : Disk

namespace StorageCall

/-- The key a call is about. -/
def key : StorageCall → String
  | upload _ key => key
  | download key _ => key
  | holds key => key

/-- The file outside of the storage that a call reads or writes. -/
def other? : StorageCall → Option Path
  | upload source _ => some source
  | download _ destination => some destination
  | holds _ => none

end StorageCall

namespace StorageRecord

/-- A call did not fail. -/
def IsDone (record : StorageRecord) : Prop :=
  ∃ answer, record.answer = .ok answer

/-- The bytes that a call stored. -/
def stored? (record : StorageRecord) : Option Bytes :=
  match record.call, record.answer with
  | .upload source _, .ok _ => record.after.fileAt? source
  | _, _ => none

end StorageRecord

namespace LocalStorage

variable (storage : LocalStorage)

/-- Make a call. -/
def record (disk : Disk) : StorageCall → StorageRecord
  | .upload source key =>
      { call := .upload source key
        answer := (storage.upload disk source key).1.map .address
        after := (storage.upload disk source key).2 }
  | .download key destination =>
      { call := .download key destination
        answer :=
          (storage.download disk key destination).1.map fun _ => .copied
        after := (storage.download disk key destination).2 }
  | .holds key =>
      { call := .holds key
        answer := (storage.holds disk key).1.map .found
        after := (storage.holds disk key).2 }

@[simp] theorem record_call
    (disk : Disk)
    (call : StorageCall) :
    (storage.record disk call).call = call := by
  cases call <;> rfl

/-- A file can have the name of a key, as far as the system allows it. -/
structure Accepts (key : String) : Prop where
  usable : (storage.file key).isUsable = true
  short : (storage.file key).toText.utf8ByteSize ≤ Disk.pathLimit
  shortSegments :
    ∀ segment ∈ keySegments key, segment.utf8ByteSize ≤ Disk.nameLimit

instance (key : String) : Decidable (storage.Accepts key) :=
  decidable_of_iff
    ((storage.file key).isUsable = true ∧
      (storage.file key).toText.utf8ByteSize ≤ Disk.pathLimit ∧
      ∀ segment ∈ keySegments key, segment.utf8ByteSize ≤ Disk.nameLimit)
    ⟨fun ⟨usable, short, segments⟩ => ⟨usable, short, segments⟩,
      fun ⟨usable, short, segments⟩ => ⟨usable, short, segments⟩⟩

/-- A call is about a plain key, and does not write into the storage past it. -/
structure Allows (call : StorageCall) : Prop where
  plain : IsPlainKey call.key
  outside :
    ∀ key destination,
      call = .download key destination →
      ¬storage.root.plainParts <+: destination.plainParts

end LocalStorage

/-- Some names lead to a folder on the way to the file of a key. -/
def IsFolderOf
    (names : List String)
    (key : String) :
    Prop :=
  names <+: keySegments key ∧ names ≠ keySegments key

theorem isFolderOf_iff
    {names : List String}
    {key : String} :
    IsFolderOf names key ↔ names <+: (keySegments key).dropLast := by
  have shape :=
    (List.dropLast_append_getLast (keySegments_ne_nil key)).symm
  constructor
  · rintro ⟨isPrefix, different⟩
    rw [shape, List.prefix_concat_iff, ← shape] at isPrefix
    exact isPrefix.resolve_left different
  · intro isAbove
    refine ⟨isAbove.trans (List.dropLast_prefix _), ?_⟩
    rintro rfl
    have shorter := isAbove.length_le
    have some := List.length_pos_of_ne_nil (keySegments_ne_nil key)
    rw [List.length_dropLast] at shorter
    omega

/-! ## The way to a plain key -/

namespace LocalStorage

variable {storage : LocalStorage} {key : String} {disk made : Disk}

theorem parent_parts
    (plain : IsPlainKey key) :
    (storage.file key).parent.parts =
      storage.root.parts ++ (keySegments key).dropLast := by
  rw [file_eq plain, Path.parent,
    List.dropLast_append_of_ne_nil (keySegments_ne_nil key)]

/-- A plain key is below the root. -/
theorem isWithin_file
    (plain : IsPlainKey key) :
    (storage.file key).isWithin storage.root = true := by
  rw [Path.isWithin, plainParts_file plain, List.isPrefixOf_iff_prefix]
  exact List.prefix_append _ _

/-- The root is a directory, and so is all on the way to it. -/
def Rooted
    (storage : LocalStorage)
    (disk : Disk) :
    Prop :=
  storage.root.parts.foldlM disk.enter [] = .ok storage.root.plainParts

theorem Rooted.stands
    (rooted : storage.Rooted disk) :
    disk.Stands storage.root.plainParts :=
  disk.stands_nil.foldlM_enter rooted

theorem Rooted.entry?_root
    (rooted : storage.Rooted disk) :
    disk.entry? storage.root.plainParts = some .directory :=
  rooted.stands _ List.prefix_rfl

theorem rooted_of_isDirectory
    (isThere : disk.isDirectory storage.root = true) :
    storage.Rooted disk := by
  obtain ⟨place, entered⟩ := Disk.exists_entered_of_isDirectory isThere
  rw [Rooted, Path.plainParts_eq, ← Disk.foldlM_enter_eq entered]
  exact entered

/-- Only folders on the way to the file of a key are made for it. -/
theorem entry?_of_prepare
    (plain : IsPlainKey key)
    (rooted : storage.Rooted disk)
    (place : Place) :
    Disk.entry? (storage.prepare disk key).2 place = disk.entry? place ∨
    (disk.entry? place = none ∧
      Disk.entry? (storage.prepare disk key).2 place = some .directory ∧
      ∃ names,
        names ≠ [] ∧
        IsFolderOf names key ∧
        place = storage.root.plainParts ++ names) := by
  rcases storage.gains_of_prepare disk key place with
    same | ⟨absent, isMade, above, isAbove, isPlace⟩
  · exact .inl same
  refine .inr ⟨absent, isMade, ?_⟩
  rw [parent_parts plain] at isAbove
  rcases List.prefix_or_prefix_of_prefix isAbove
      (List.prefix_append storage.root.parts _) with
    ⟨more, inRoot⟩ | ⟨names, rfl⟩
  · -- What is on the way to the root stood before.
    have stood : disk.entry? place = some .directory := by
      rw [isPlace]
      apply Disk.entry?_above_of_foldlM_enter
      rw [inRoot]
      exact rooted
    rw [absent] at stood
    cases stood
  · have isFolder : names <+: (keySegments key).dropLast :=
      (List.prefix_append_right_inj _).mp isAbove
    have reached : place = storage.root.plainParts ++ names := by
      rw [isPlace, List.foldl_append, Path.plainParts_eq]
      refine Place.foldl_next (fun name member => ?_) _
      have isSegment := (isFolder.trans (List.dropLast_prefix _)).subset member
      exact (plain.isKeySegment isSegment).notUp
    refine ⟨names, ?_, isFolderOf_iff.mpr isFolder, reached⟩
    rintro rfl
    rw [reached, List.append_nil, rooted.entry?_root] at absent
    cases absent

/-- Below the root, only folders on the way are made. -/
theorem entry?_below_of_prepare
    (plain : IsPlainKey key)
    (rooted : storage.Rooted disk)
    (names : List String) :
    Disk.entry? (storage.prepare disk key).2
        (storage.root.plainParts ++ names) =
      disk.entry? (storage.root.plainParts ++ names) ∨
    (disk.entry? (storage.root.plainParts ++ names) = none ∧
      Disk.entry? (storage.prepare disk key).2
          (storage.root.plainParts ++ names) =
        some .directory ∧
      names ≠ [] ∧
      IsFolderOf names key) := by
  rcases entry?_of_prepare plain rooted (storage.root.plainParts ++ names) with
    same | ⟨absent, isMade, others, some, isFolder, same⟩
  · exact .inl same
  · obtain rfl := List.append_cancel_left same
    exact .inr ⟨absent, isMade, some, isFolder⟩

/-- Elsewhere, nothing is made. -/
theorem entry?_outside_of_prepare
    (plain : IsPlainKey key)
    (rooted : storage.Rooted disk)
    {place : Place}
    (notBelow : ¬storage.root.plainParts <+: place) :
    Disk.entry? (storage.prepare disk key).2 place = disk.entry? place := by
  rcases entry?_of_prepare plain rooted place with
    same | ⟨_, _, names, _, _, rfl⟩
  · exact same
  · exact (notBelow (List.prefix_append _ _)).elim

/-- Nothing is made at the place of the key itself. -/
theorem entry?_own_of_prepare
    (plain : IsPlainKey key)
    (rooted : storage.Rooted disk) :
    Disk.entry? (storage.prepare disk key).2
        (storage.root.plainParts ++ keySegments key) =
      disk.entry? (storage.root.plainParts ++ keySegments key) := by
  rcases entry?_below_of_prepare plain rooted (keySegments key) with
    same | ⟨_, _, _, isFolder⟩
  · exact same
  · exact (isFolder.2 rfl).elim

theorem Rooted.prepare
    (rooted : storage.Rooted disk)
    (key : String) :
    storage.Rooted (storage.prepare disk key).2 :=
  Disk.foldlM_enter_of_enter
    (Disk.enter_of_stays (storage.gains_of_prepare disk key).stays) rooted

theorem file_eq_child
    (plain : IsPlainKey key) :
    storage.file key =
      (storage.file key).parent.child
        ((keySegments key).getLast (keySegments_ne_nil key)) := by
  rw [Path.child, parent_parts plain, List.append_assoc,
    List.dropLast_append_getLast, file_eq plain]
  rfl

/-- Where the file of a key is reached, the key is accepted, and all folders on
the way are there. -/
theorem accepts_of_locate
    (plain : IsPlainKey key)
    (usable : (storage.file key).isUsable = true)
    {place : Place}
    (located : disk.locate (storage.file key) = .ok place) :
    storage.Accepts key ∧
    ∀ names,
      IsFolderOf names key →
      disk.entry? (storage.root.plainParts ++ names) = some .directory := by
  have down : ∀ segment ∈ keySegments key, segment ≠ ".." :=
    fun segment member => (plain.isKeySegment member).notUp
  have shape :=
    (List.dropLast_append_getLast (keySegments_ne_nil key)).symm
  constructor
  · rw [file_eq_child plain] at located
    obtain ⟨short, shortLast, above, entered, _⟩ :=
      (disk.locate_child_eq_ok_iff _
        (down _ (List.getLast_mem (keySegments_ne_nil key))) place).mp located
    rw [← file_eq_child plain] at short
    rw [parent_parts plain, List.foldlM_append] at entered
    refine ⟨usable, Nat.not_lt.mp short, ?_⟩
    rw [shape]
    intro segment member
    rcases List.mem_append.mp member with isAbove | isLast
    · cases rooted : storage.root.parts.foldlM disk.enter [] with
      | error cause =>
          rw [rooted] at entered
          cases entered
      | ok root =>
          rw [rooted] at entered
          exact
            Disk.short_of_foldlM_enter
              (fun name inAbove =>
                down name ((List.dropLast_prefix _).subset inAbove))
              entered segment isAbove
    · rw [List.mem_singleton.mp isLast]
      exact Nat.not_lt.mp shortLast
  · rintro names ⟨⟨below, isBelow⟩, different⟩
    have someBelow : below ≠ [] := by
      rintro rfl
      exact different (by simpa using isBelow)
    have parts :
        (storage.file key).parts = (storage.root.parts ++ names) ++ below := by
      rw [file_eq plain, ← isBelow, List.append_assoc]
    have stands := Disk.entry?_above_of_locate parts someBelow located
    rw [List.foldl_append, ← Path.plainParts_eq, Place.foldl_next] at stands
    · exact stands
    · intro name member
      exact down name (by rw [← isBelow]; simp [member])

/-- Where all folders on the way are there, the file of an accepted key is
reached. -/
theorem locate_of_accepts
    (plain : IsPlainKey key)
    (accepts : storage.Accepts key)
    (rooted : storage.Rooted disk)
    (ways :
      ∀ names,
        IsFolderOf names key →
        disk.entry? (storage.root.plainParts ++ names) = some .directory) :
    disk.locate (storage.file key) =
      .ok (storage.root.plainParts ++ keySegments key) := by
  have down : ∀ segment ∈ keySegments key, segment ≠ ".." :=
    fun segment member => (plain.isKeySegment member).notUp
  have isAbove := List.dropLast_prefix (keySegments key)
  have shape :=
    (List.dropLast_append_getLast (keySegments_ne_nil key)).symm
  have isLast := List.getLast_mem (keySegments_ne_nil key)
  have stands :
      disk.Stands
        (storage.root.plainParts ++ (keySegments key).dropLast) := by
    intro above isPrefix
    rcases List.prefix_or_prefix_of_prefix isPrefix
        (List.prefix_append storage.root.plainParts _) with
      inRoot | ⟨names, rfl⟩
    · exact rooted.stands above inRoot
    · exact ways names <| isFolderOf_iff.mpr <|
        (List.prefix_append_right_inj _).mp isPrefix
  have entered :
      (storage.file key).parent.parts.foldlM disk.enter [] =
        .ok (storage.root.plainParts ++ (keySegments key).dropLast) := by
    rw [parent_parts plain, List.foldlM_append, rooted]
    exact
      Disk.foldlM_enter_of_stands
        (fun name member => down name (isAbove.subset member))
        (fun name member => accepts.shortSegments name (isAbove.subset member))
        stands
  have short := accepts.short
  rw [file_eq_child plain] at short ⊢
  refine (disk.locate_child_eq_ok_iff _ (down _ isLast) _).mpr
    ⟨Nat.not_lt.mpr short, Nat.not_lt.mpr (accepts.shortSegments _ isLast),
      _, entered, ?_⟩
  rw [List.append_assoc, ← shape]

/-- The folder of an accepted key has an accepted path, and so has each folder
on the way to it. -/
theorem Accepts.isUsable_parent
    (plain : IsPlainKey key)
    (accepts : storage.Accepts key) :
    Path.isUsable
        { storage.root with
          parts := storage.root.parts ++ (keySegments key).dropLast } =
      true := by
  have isAbove := List.dropLast_prefix (keySegments key)
  have all := accepts.usable
  rw [file_eq plain, Path.isUsable, List.all_eq_true] at all
  rw [Path.isUsable, List.all_eq_true]
  exact fun part member =>
    all part (((List.prefix_append_right_inj _).mpr isAbove).subset member)

theorem Accepts.short_above
    (plain : IsPlainKey key)
    (accepts : storage.Accepts key)
    {above : List String}
    (isAbove : above <+: keySegments key) :
    (Path.toText
      { storage.root with
        parts := storage.root.parts ++ above }).utf8ByteSize ≤
      Disk.pathLimit := by
  obtain ⟨below, isBelow⟩ := isAbove
  have areNames : ∀ name ∈ below, name ≠ "" := by
    rintro name member rfl
    have isSegment : "" ∈ keySegments key := by
      rw [← isBelow]
      exact List.mem_append_right above member
    exact (plain.isKeySegment isSegment).isPart.notEmpty rfl
  have longer :=
    Path.size_toText_le storage.root.slashes (storage.root.parts ++ above)
      areNames
  rw [List.append_assoc, isBelow, ← file_eq plain] at longer
  exact longer.trans accepts.short

/-- An accepted key is prepared if no file is on the way. -/
theorem exists_prepared
    (plain : IsPlainKey key)
    (accepts : storage.Accepts key)
    (rooted : storage.Rooted disk)
    (free :
      ∀ names content,
        IsFolderOf names key →
        disk.entry? (storage.root.plainParts ++ names) ≠
          some (.file content)) :
    ∃ made,
      storage.prepare disk key = (.ok (storage.file key), made) ∧
      made.locate (storage.file key) =
        .ok (storage.root.plainParts ++ keySegments key) := by
  have isAbove := List.dropLast_prefix (keySegments key)
  have clear :
      disk.IsClear storage.root.plainParts (keySegments key).dropLast := {
    down := fun name member =>
      (plain.isKeySegment (isAbove.subset member)).notUp
    short := fun name member =>
      accepts.shortSegments name (isAbove.subset member)
    free := fun names content isFolder =>
      free names content (isFolderOf_iff.mpr isFolder) }
  have parent :
      (storage.file key).parent =
        { storage.root with
          parts := storage.root.parts ++ (keySegments key).dropLast } := by
    rw [← parent_parts plain, file_eq plain]
    rfl
  obtain ⟨made, isMade, stands⟩ :=
    clear.makeDirectories_eq storage.root (accepts.isUsable_parent plain)
      (fun _ isPrefix => accepts.short_above plain (isPrefix.trans isAbove))
      rooted
  rw [← parent] at isMade
  have prepared :=
    prepare_eq_ok_iff.mpr ⟨rfl, accepts.usable, isWithin_file plain, isMade⟩
  refine ⟨made, prepared, locate_of_accepts plain accepts ?_ ?_⟩
  · have rootedMade := rooted.prepare key
    rwa [prepared] at rootedMade
  · intro names isFolder
    exact stands _
      ((List.prefix_append_right_inj _).mpr (isFolderOf_iff.mp isFolder))

/-- Whether an object is there is told only where its file is reached. -/
theorem exists_located_of_holds
    {found : Bool}
    (plain : IsPlainKey key)
    (held : (storage.holds disk key).1 = .ok found) :
    ∃ made place,
      storage.prepare disk key = (.ok (storage.file key), made) ∧
      made.locate (storage.file key) = .ok place := by
  unfold holds at held
  rcases prepared : storage.prepare disk key with ⟨failure | file, made⟩
  · rw [prepared] at held
    cases held
  · rw [prepared] at held
    obtain rfl := file_of_prepare prepared
    dsimp only at held
    obtain ⟨_, usable, _, isMade⟩ := prepare_eq_ok_iff.mp prepared
    refine ⟨made, ?_⟩
    cases located : made.locate (storage.file key) with
    | ok place => exact ⟨place, rfl, rfl⟩
    | error cause =>
        obtain ⟨above, entered⟩ :=
          Disk.exists_entered_of_isDirectory
            (Disk.isDirectory_of_makeDirectories isMade)
        have isLong : cause = .nameTooLong := by
          rw [file_eq_child plain] at located
          rcases Disk.locate_child_of_foldlM_enter
              ((plain.isKeySegment (List.getLast_mem _)).notUp) entered with
            isReached | isLong
          · cases located.symm.trans isReached
          · exact Except.error.inj (located.symm.trans isLong)
        have noStatus :
            made.status (storage.file key) = .error .nameTooLong := by
          rw [Disk.status, located, isLong]
          rfl
        simp [Disk.holds, usable, noStatus] at held

/-! ## Answers after a key was prepared -/

section Prepared

variable
  (prepared : storage.prepare disk key = (.ok (storage.file key), made))

include prepared

/-- An upload is a copy into the file of its key. -/
theorem answer_of_upload (source : Path) :
    (storage.record disk (.upload source key)).answer.toOption =
      (made.copy source (storage.file key)
        (.sameFile (quoted source.toText)
          (storage.file key).shown)).toOption.map
        fun _ => .address (publicAddress storage.publicBase key) := by
  simp only [record, upload, prepared]
  cases made.copy source (storage.file key)
    (.sameFile (quoted source.toText) (storage.file key).shown) <;> rfl

/-- A download is a copy of it. -/
theorem answer_of_download (destination : Path) :
    (storage.record disk (.download key destination)).answer.toOption =
      (made.copy (storage.file key) destination
        (.sameFile (storage.file key).shown
          (quoted destination.toText))).toOption.map fun _ => .copied := by
  simp only [record, download, prepared]
  cases made.copy (storage.file key) destination
    (.sameFile (storage.file key).shown (quoted destination.toText)) <;> rfl

theorem answer_of_holds :
    (storage.record disk (.holds key)).answer =
      (made.holds (storage.file key)).map .found := by
  simp only [record, holds, prepared]

end Prepared

/-- An upload that does not fail stores the bytes of its source. -/
theorem stored?_of_done
    {source : Path}
    (isDone : (storage.record disk (.upload source key)).IsDone) :
    ∃ content,
      (storage.record disk (.upload source key)).stored? = some content ∧
      (storage.record disk (.upload source key)).after.fileAt? source =
        some content := by
  obtain ⟨answer, isAnswer⟩ := isDone
  cases uploaded : (storage.upload disk source key).1 with
  | error failure => simp [record, uploaded, Except.map] at isAnswer
  | ok address =>
      obtain ⟨_, content, _, stays, _⟩ := exists_receives_of_upload uploaded
      refine ⟨content, ?_, stays⟩
      simpa [record, StorageRecord.stored?, uploaded, Except.map] using stays

/-! ## Effects of calls -/

/-- What a call changes on a disk. -/
structure Affects
    (storage : LocalStorage)
    (before : Disk)
    (record : StorageRecord) :
    Prop where
  rooted : storage.Rooted record.after
  /-- What was stored is written to the file of the key. -/
  written :
    ∀ content,
      record.stored? = some content →
      before.entry?
          (storage.root.plainParts ++ keySegments record.call.key) ≠
        some .directory ∧
      record.after.entry?
          (storage.root.plainParts ++ keySegments record.call.key) =
        some (.file content)
  /-- Apart from this, only folders on the way may be new below the root. -/
  below :
    ∀ names,
      (names = keySegments record.call.key → record.stored? = none) →
      record.after.entry? (storage.root.plainParts ++ names) =
        before.entry? (storage.root.plainParts ++ names) ∨
      (before.entry? (storage.root.plainParts ++ names) = none ∧
        record.after.entry? (storage.root.plainParts ++ names) =
          some .directory ∧
        names ≠ [] ∧
        IsFolderOf names record.call.key)
  /-- Elsewhere, only the destination of a download changes. -/
  outside :
    ∀ place,
      ¬storage.root.plainParts <+: place →
      (∀ key destination,
        record.call = .download key destination →
        place ≠ destination.plainParts) →
      record.after.entry? place = before.entry? place
  /-- A call that does not fail is about an accepted key, whose folders are
  there. -/
  done :
    record.IsDone →
    storage.Accepts record.call.key ∧
    ∀ names,
      IsFolderOf names record.call.key →
      record.after.entry? (storage.root.plainParts ++ names) =
        some .directory

section Effects

variable (plain : IsPlainKey key) (rooted : storage.Rooted disk)

include plain rooted

/-- To look at a key, or to fail, makes only folders. -/
theorem affects_of_prepare
    {record : StorageRecord}
    (isAbout : record.call.key = key)
    (isAfter : record.after = (storage.prepare disk key).2)
    (storesNothing : record.stored? = none)
    (accepts :
      record.IsDone →
      storage.Accepts key ∧
      ∀ names,
        IsFolderOf names key →
        record.after.entry? (storage.root.plainParts ++ names) =
          some .directory) :
    storage.Affects disk record where
  rooted := by
    rw [isAfter]
    exact rooted.prepare key
  written := by simp [storesNothing]
  below := by
    intro names _
    rw [isAfter, isAbout]
    exact entry?_below_of_prepare plain rooted names
  outside := by
    intro place notBelow _
    rw [isAfter]
    exact entry?_outside_of_prepare plain rooted notBelow
  done := by
    rw [isAbout]
    exact accepts

/-- To succeed with a copy writes one file, that of the key or the destination
of a download. -/
theorem affects_of_receives
    {record : StorageRecord}
    (isAbout : record.call.key = key)
    (prepared : storage.prepare disk key = (.ok (storage.file key), made))
    {reached : Place}
    (located : made.locate (storage.file key) = .ok reached)
    {place : Place}
    {content : Bytes}
    (receives : made.Receives place content record.after)
    (target :
      record.stored? = some content ∧
        place = storage.root.plainParts ++ keySegments key ∨
      record.stored? = none ∧
        ¬storage.root.plainParts <+: place ∧
        ∃ destination,
          record.call = .download key destination ∧
          place = destination.plainParts) :
    storage.Affects disk record := by
  have isMade : (storage.prepare disk key).2 = made := by
    rw [prepared]
  have apart :
      ∀ names,
        (names = keySegments key → record.stored? = none) →
        storage.root.plainParts ++ names ≠ place := by
    intro names free isPlace
    rcases target with ⟨stores, rfl⟩ | ⟨_, notBelow, _⟩
    · rw [free (List.append_cancel_left isPlace)] at stores
      cases stores
    · exact notBelow (isPlace ▸ List.prefix_append _ _)
  constructor
  case rooted =>
    have rootedMade := rooted.prepare key
    rw [isMade] at rootedMade
    exact
      Disk.foldlM_enter_of_enter (receives.changed.enter_eq_ok_iff _ _ _).mpr
        rootedMade
  case written =>
    intro kept stores
    rcases target with ⟨isContent, rfl⟩ | ⟨storesNothing, _⟩
    · rw [isAbout]
      cases isContent.symm.trans stores
      have noDirectory := receives.changed.noDirectoryBefore
      rw [← isMade, entry?_own_of_prepare plain rooted] at noDirectory
      exact ⟨noDirectory, receives.written⟩
    · rw [storesNothing] at stores
      cases stores
  case below =>
    intro names free
    rw [isAbout] at free ⊢
    rw [receives.changed.elsewhere _ (apart names free), ← isMade]
    exact entry?_below_of_prepare plain rooted names
  case outside =>
    intro other notBelow notDestination
    have different : other ≠ place := by
      rintro rfl
      rcases target with ⟨_, rfl⟩ | ⟨_, _, destination, isCall, isPlace⟩
      · exact notBelow (List.prefix_append _ _)
      · exact notDestination key destination isCall isPlace
    rw [receives.changed.elsewhere other different, ← isMade]
    exact entry?_outside_of_prepare plain rooted notBelow
  case done =>
    intro _
    rw [isAbout]
    obtain ⟨_, usable, _⟩ := prepare_eq_ok_iff.mp prepared
    obtain ⟨accepts, ways⟩ := accepts_of_locate plain usable located
    refine ⟨accepts, ?_⟩
    intro names isFolder
    rw [receives.changed.elsewhere _
      (apart names fun isKey => (isFolder.2 isKey).elim)]
    exact ways names isFolder

theorem affects_of_upload (source : Path) :
    storage.Affects disk (storage.record disk (.upload source key)) := by
  cases uploaded : (storage.upload disk source key).1 with
  | error failure =>
      refine affects_of_prepare plain rooted rfl
        (disk_of_upload_error uploaded)
        (by simp [record, StorageRecord.stored?, uploaded, Except.map]) ?_
      rintro ⟨answer, isAnswer⟩
      simp [record, uploaded, Except.map] at isAnswer
  | ok address =>
      obtain ⟨made, content, prepared, stays, located, receives⟩ :=
        exists_receives_of_upload uploaded
      refine affects_of_receives plain rooted rfl prepared located receives
        (.inl ⟨?_, plainParts_file plain⟩)
      simpa [record, StorageRecord.stored?, uploaded, Except.map] using stays

theorem affects_of_download
    {destination : Path}
    (outside : ¬storage.root.plainParts <+: destination.plainParts) :
    storage.Affects disk
      (storage.record disk (.download key destination)) := by
  cases downloaded : (storage.download disk key destination).1 with
  | error failure =>
      refine affects_of_prepare plain rooted rfl
        (disk_of_download_error downloaded) rfl ?_
      rintro ⟨answer, isAnswer⟩
      simp [record, downloaded, Except.map] at isAnswer
  | ok done =>
      obtain ⟨made, content, prepared, stands, _, receives⟩ :=
        exists_receives_of_download downloaded
      obtain ⟨_, place, located, _⟩ := Disk.fileAt?_eq_some_iff.mp stands
      exact affects_of_receives plain rooted rfl prepared located receives
        (.inr ⟨rfl, outside, destination, rfl, rfl⟩)

theorem affects_of_holds :
    storage.Affects disk (storage.record disk (.holds key)) := by
  refine affects_of_prepare plain rooted rfl (storage.disk_of_holds disk key)
    rfl ?_
  rintro ⟨answer, isAnswer⟩
  simp only [record] at isAnswer ⊢
  cases held : (storage.holds disk key).1 with
  | error failure =>
      rw [held] at isAnswer
      cases isAnswer
  | ok found =>
      obtain ⟨made, place, prepared, located⟩ :=
        exists_located_of_holds plain held
      obtain ⟨_, usable, _⟩ := prepare_eq_ok_iff.mp prepared
      rw [disk_of_holds, prepared]
      exact accepts_of_locate plain usable located

end Effects

theorem affects_of_call
    {call : StorageCall}
    (allows : storage.Allows call)
    (rooted : storage.Rooted disk) :
    storage.Affects disk (storage.record disk call) := by
  cases call with
  | upload source key => exact affects_of_upload allows.plain rooted source
  | download key destination =>
      exact affects_of_download allows.plain rooted
        (allows.outside key destination rfl)
  | holds key => exact affects_of_holds allows.plain rooted

end LocalStorage

end Montage
