import Montage.Proofs.Storage.Records

namespace Montage

/-!
# A storage as a map

After any calls, the files below the root are those of a map from keys to bytes:
the one that the uploads which succeeded leave. The folders are not part of that
map, but they are seen: to ask for a key makes the folders on the way, a folder
passes for an object, and keeps its own key from being stored. Calls about keys
that are not folders of each other are answered from the map alone.
-/

/-! ## The map -/

/-- The bytes that a call stored under a key. -/
def StorageRecord.storedUnder?
    (key : String)
    (record : StorageRecord) :
    Option Bytes :=
  if record.call.key = key then record.stored? else none

/-- The map that calls leave: under each key what was stored last. -/
def storedObject?
    (past : List StorageRecord)
    (key : String) :
    Option Bytes :=
  (past.filterMap (·.storedUnder? key)).getLast?

theorem storedObject?_concat
    (past : List StorageRecord)
    (record : StorageRecord)
    (key : String) :
    storedObject? (past ++ [record]) key =
      (record.storedUnder? key).or (storedObject? past key) := by
  unfold storedObject?
  rw [List.filterMap_append, List.getLast?_append]
  cases stores : record.storedUnder? key <;> simp [stores]

namespace StorageRecord

variable {record : StorageRecord}

/-- What fails stores nothing. -/
theorem isDone_of_stored?
    {content : Bytes}
    (stores : record.stored? = some content) :
    record.IsDone := by
  unfold stored? at stores
  split at stores
  · rename_i isAnswer
    exact ⟨_, isAnswer⟩
  · cases stores

theorem storedUnder?_eq_some_iff
    {key : String}
    {content : Bytes} :
    record.storedUnder? key = some content ↔
      record.call.key = key ∧ record.stored? = some content := by
  simp [storedUnder?]

end StorageRecord

theorem storedObject?_concat_of_stored
    (past : List StorageRecord)
    {record : StorageRecord}
    {content : Bytes}
    (stores : record.stored? = some content)
    (key : String) :
    storedObject? (past ++ [record]) key =
      if key = record.call.key then some content
      else storedObject? past key := by
  rw [storedObject?_concat, StorageRecord.storedUnder?, stores]
  by_cases isKey : key = record.call.key
  · rw [if_pos isKey, if_pos isKey.symm, Option.some_or]
  · rw [if_neg isKey, if_neg (Ne.symm isKey), Option.none_or]

/-- Keys that a call stores nothing under keep what they had. -/
theorem storedObject?_concat_of_free
    {past : List StorageRecord}
    {record : StorageRecord}
    {names : List String}
    (free : names = keySegments record.call.key → record.stored? = none)
    {key : String}
    (isKey : names = keySegments key) :
    storedObject? (past ++ [record]) key = storedObject? past key := by
  have storesNothing : record.storedUnder? key = none := by
    unfold StorageRecord.storedUnder?
    split
    · rename_i isAbout
      exact free (isAbout ▸ isKey)
    · rfl
  rw [storedObject?_concat, storesNothing, Option.none_or]

/-- What is in the map was stored by a call that did not fail. -/
theorem exists_done_of_storedObject?
    {past : List StorageRecord}
    {key : String}
    {content : Bytes}
    (isStored : storedObject? past key = some content) :
    ∃ record ∈ past, record.IsDone ∧ record.call.key = key := by
  obtain ⟨record, member, stores⟩ :=
    List.mem_filterMap.mp (List.mem_of_getLast? isStored)
  obtain ⟨isAbout, stored⟩ :=
    StorageRecord.storedUnder?_eq_some_iff.mp stores
  exact ⟨record, member, StorageRecord.isDone_of_stored? stored, isAbout⟩

namespace LocalStorage

variable {storage : LocalStorage} {past : List StorageRecord}
  {before after disk : Disk}

/-! ## Histories -/

/-- Others left everything below the root, and the way to it. -/
structure Spares
    (storage : LocalStorage)
    (before after : Disk) :
    Prop where
  rooted : storage.Rooted after
  below :
    ∀ names,
      after.entry? (storage.root.plainParts ++ names) =
        before.entry? (storage.root.plainParts ++ names)

/-- The calls of a storage that was empty, and the disk they left. Between them,
others change what is not below the root. -/
inductive History (storage : LocalStorage) : List StorageRecord → Disk → Prop
  | opened {disk : Disk} :
      disk.isDirectory storage.root = true →
      (∀ names,
        names ≠ [] →
        disk.entry? (storage.root.plainParts ++ names) = none) →
      History storage [] disk
  | called {past : List StorageRecord} {disk : Disk} (call : StorageCall) :
      History storage past disk →
      storage.Allows call →
      History storage (past ++ [storage.record disk call])
        (storage.record disk call).after
  | meanwhile {past : List StorageRecord} {before after : Disk} :
      History storage past before →
      storage.Spares before after →
      History storage past after

/-- Some names below the root are those of the key that a call wrote, or lead to
what was there before, or to a new folder. -/
theorem Affects.cases
    {record : StorageRecord}
    (affects : storage.Affects disk record)
    (names : List String) :
    (∃ content,
      names = keySegments record.call.key ∧
      record.stored? = some content ∧
      disk.entry? (storage.root.plainParts ++ names) ≠ some .directory ∧
      record.after.entry? (storage.root.plainParts ++ names) =
        some (.file content)) ∨
    ((names = keySegments record.call.key → record.stored? = none) ∧
      (record.after.entry? (storage.root.plainParts ++ names) =
          disk.entry? (storage.root.plainParts ++ names) ∨
        (disk.entry? (storage.root.plainParts ++ names) = none ∧
          record.after.entry? (storage.root.plainParts ++ names) =
            some .directory ∧
          names ≠ [] ∧
          IsFolderOf names record.call.key))) := by
  by_cases free : names = keySegments record.call.key → record.stored? = none
  · exact .inr ⟨free, affects.below names free⟩
  · obtain ⟨isKey, stores⟩ := Classical.not_imp.mp free
    obtain ⟨content, isContent⟩ := Option.ne_none_iff_exists'.mp stores
    obtain ⟨noFolder, isFile⟩ := affects.written content isContent
    rw [← isKey] at noFolder isFile
    exact .inl ⟨content, isKey, isContent, noFolder, isFile⟩

/-- The entries below the root are those of the map, and folders on the way to
keys that were asked for. -/
structure Mirrors
    (storage : LocalStorage)
    (past : List StorageRecord)
    (disk : Disk) :
    Prop where
  rooted : storage.Rooted disk
  plain : ∀ record ∈ past, IsPlainKey record.call.key
  accepts : ∀ record ∈ past, record.IsDone → storage.Accepts record.call.key
  files :
    ∀ names content,
      disk.entry? (storage.root.plainParts ++ names) = some (.file content) ↔
      ∃ key, names = keySegments key ∧ storedObject? past key = some content
  folders :
    ∀ names,
      names ≠ [] →
      disk.entry? (storage.root.plainParts ++ names) = some .directory →
      ∃ record ∈ past, IsFolderOf names record.call.key
  ways :
    ∀ record ∈ past,
      record.IsDone →
      ∀ names,
        IsFolderOf names record.call.key →
        disk.entry? (storage.root.plainParts ++ names) = some .directory

namespace Mirrors

theorem opened
    (isThere : disk.isDirectory storage.root = true)
    (empty :
      ∀ names,
        names ≠ [] →
        disk.entry? (storage.root.plainParts ++ names) = none) :
    storage.Mirrors [] disk where
  rooted := rooted_of_isDirectory isThere
  plain := by simp
  accepts := by simp
  files := by
    intro names content
    simp only [storedObject?, List.filterMap_nil, List.getLast?_nil,
      reduceCtorEq, and_false, exists_false, iff_false]
    intro isFile
    by_cases isRoot : names = []
    · rw [isRoot, List.append_nil,
        (rooted_of_isDirectory isThere).entry?_root] at isFile
      cases isFile
    · rw [empty names isRoot] at isFile
      cases isFile
  folders := by
    intro names below isFolder
    rw [empty names below] at isFolder
    cases isFolder
  ways := by simp

theorem meanwhile
    (mirrors : storage.Mirrors past before)
    (spares : storage.Spares before after) :
    storage.Mirrors past after where
  rooted := spares.rooted
  plain := mirrors.plain
  accepts := mirrors.accepts
  files := fun names content => by
    rw [spares.below]
    exact mirrors.files names content
  folders := fun names below isFolder =>
    mirrors.folders names below (spares.below names ▸ isFolder)
  ways := fun record member isDone names isFolder => by
    rw [spares.below]
    exact mirrors.ways record member isDone names isFolder

/-- After a call, the files are again those of the map. -/
theorem files_called
    {record : StorageRecord}
    (mirrors : storage.Mirrors past disk)
    (affects : storage.Affects disk record)
    (names : List String)
    (content : Bytes) :
    record.after.entry? (storage.root.plainParts ++ names) =
        some (.file content) ↔
      ∃ key,
        names = keySegments key ∧
        storedObject? (past ++ [record]) key = some content := by
  rcases affects.cases names with
    ⟨kept, rfl, stores, _, isFile⟩ | ⟨free, same | ⟨absent, isNew, _⟩⟩
  · rw [isFile]
    have isLatest :
        storedObject? (past ++ [record]) record.call.key = some kept := by
      rw [storedObject?_concat_of_stored past stores, if_pos rfl]
    constructor
    · intro sameFile
      cases sameFile
      exact ⟨_, rfl, isLatest⟩
    · rintro ⟨key, sameKey, isStored⟩
      rw [← keySegments_injective sameKey, isLatest] at isStored
      rw [Option.some.inj isStored]
  · rw [same, mirrors.files]
    refine exists_congr fun key => and_congr_right ?_
    intro isKey
    rw [storedObject?_concat_of_free free isKey]
  · rw [isNew]
    constructor
    · intro isFile
      cases isFile
    · rintro ⟨key, isKey, isStored⟩
      rw [storedObject?_concat_of_free free isKey] at isStored
      have isFile := (mirrors.files names content).mpr ⟨key, isKey, isStored⟩
      rw [absent] at isFile
      cases isFile

/-- What a call changes, the map changes alike. -/
theorem called
    {record : StorageRecord}
    (mirrors : storage.Mirrors past disk)
    (plain : IsPlainKey record.call.key)
    (affects : storage.Affects disk record) :
    storage.Mirrors (past ++ [record]) record.after where
  rooted := affects.rooted
  plain := by
    intro other member
    rcases List.mem_append.mp member with isEarlier | isNew
    · exact mirrors.plain other isEarlier
    · rw [List.mem_singleton.mp isNew]
      exact plain
  accepts := by
    intro other member isDone
    rcases List.mem_append.mp member with isEarlier | isNew
    · exact mirrors.accepts other isEarlier isDone
    · rw [List.mem_singleton.mp isNew] at isDone ⊢
      exact (affects.done isDone).1
  files := mirrors.files_called affects
  folders := by
    intro names below isFolder
    rcases affects.cases names with
      ⟨_, rfl, _, _, isFile⟩ | ⟨_, same | ⟨_, _, _, onTheWay⟩⟩
    · rw [isFile] at isFolder
      cases isFolder
    · rw [same] at isFolder
      obtain ⟨other, member, onTheWay⟩ := mirrors.folders names below isFolder
      exact ⟨other, List.mem_append_left _ member, onTheWay⟩
    · exact ⟨record, by simp, onTheWay⟩
  ways := by
    intro other member isDone names onTheWay
    rcases List.mem_append.mp member with isEarlier | isNew
    · have stood := mirrors.ways other isEarlier isDone names onTheWay
      rcases affects.cases names with
        ⟨_, rfl, _, noFolder, _⟩ | ⟨_, same | ⟨absent, _⟩⟩
      · exact (noFolder stood).elim
      · exact same.trans stood
      · rw [absent] at stood
        cases stood
    · rw [List.mem_singleton.mp isNew] at isDone onTheWay
      exact (affects.done isDone).2 names onTheWay

end Mirrors

/-- A storage with a history is a mirror of its map. -/
theorem History.mirrors
    (history : storage.History past disk) :
    storage.Mirrors past disk := by
  induction history with
  | opened isThere empty => exact .opened isThere empty
  | called call _ allows mirrors =>
      exact mirrors.called (by simpa using allows.plain)
        (affects_of_call allows mirrors.rooted)
  | meanwhile _ spares mirrors => exact mirrors.meanwhile spares

/-! ## Answers from the map -/

/-- The files of plain keys are those of the map. -/
theorem Mirrors.fileAt?_eq
    (mirrors : storage.Mirrors past disk)
    {key : String}
    (plain : IsPlainKey key) :
    disk.fileAt? (storage.file key) = storedObject? past key := by
  apply Option.ext
  intro content
  rw [Disk.fileAt?_eq_some_iff]
  constructor
  · rintro ⟨_, place, located, isFile⟩
    rw [Disk.locate_eq_plainParts located, plainParts_file plain,
      mirrors.files] at isFile
    obtain ⟨other, sameKey, isStored⟩ := isFile
    rwa [keySegments_injective sameKey]
  · intro isStored
    obtain ⟨record, member, isDone, rfl⟩ :=
      exists_done_of_storedObject? isStored
    have accepts := mirrors.accepts record member isDone
    exact ⟨accepts.usable, _,
      locate_of_accepts plain accepts mirrors.rooted
        (mirrors.ways record member isDone),
      (mirrors.files _ content).mpr ⟨_, rfl, isStored⟩⟩

/-- No key that was asked for is a folder of another key, or has it as one. -/
def IsUntangled
    (past : List StorageRecord)
    (key : String) :
    Prop :=
  ∀ record ∈ past,
    ¬IsFolderOf (keySegments record.call.key) key ∧
    ¬IsFolderOf (keySegments key) record.call.key

/-- A path does not go through the folders of a storage. -/
def Avoids
    (storage : LocalStorage)
    (path : Path) :
    Prop :=
  ∀ above,
    above <+: path.parts →
    storage.root.plainParts <+: above.foldl Place.next [] →
    above.foldl Place.next [] = storage.root.plainParts

/-- A path that avoids the storage is not that of the file of a key. -/
theorem Avoids.plainParts_ne
    {path : Path}
    {key : String}
    (avoids : storage.Avoids path)
    (plain : IsPlainKey key) :
    path.plainParts ≠ (storage.file key).plainParts := by
  rw [plainParts_file plain]
  intro same
  have atRoot :=
    avoids path.parts List.prefix_rfl <| by
      rw [← Path.plainParts_eq, same]
      exact List.prefix_append _ _
  rw [← Path.plainParts_eq, same] at atRoot
  exact keySegments_ne_nil key (List.append_right_eq_self.mp atRoot)

/-- Whether there is a result is all that counts where it is not used. -/
theorem map_toOption_eq_ite
    {α β : Type}
    {outcome : Outcome α}
    {condition : Prop}
    [Decidable condition]
    (succeeds : (∃ result, outcome = .ok result) ↔ condition)
    (value : β) :
    (outcome.toOption.map fun _ => value) =
      if condition then some value else none := by
  cases outcome with
  | ok result => simp [← succeeds, Except.toOption]
  | error failure => simp [← succeeds, Except.toOption]

/-- What a map answers to a call, which reads and writes its other file on a
disk. -/
def answer?
    (storage : LocalStorage)
    (objects : String → Option Bytes)
    (disk : Disk) :
    StorageCall → Option StorageAnswer
  | .upload source key =>
      if storage.Accepts key ∧ (disk.fileAt? source).isSome then
        some (.address (publicAddress storage.publicBase key))
      else
        none
  | .download key destination =>
      if storage.Accepts key ∧ (objects key).isSome ∧
          destination.isUsable ∧ (disk.writable destination).isOk then
        some .copied
      else
        none
  | .holds key =>
      if storage.Accepts key then
        some (.found (objects key).isSome)
      else
        none

section Answers

variable {key : String} (mirrors : storage.Mirrors past disk)

include mirrors

/-- At an untangled key, there is the object of the map or nothing. -/
theorem Mirrors.entry?_eq
    (untangled : IsUntangled past key) :
    disk.entry? (storage.root.plainParts ++ keySegments key) =
      (storedObject? past key).map .file := by
  cases found : disk.entry? (storage.root.plainParts ++ keySegments key) with
  | none =>
      cases isStored : storedObject? past key with
      | none => rfl
      | some content =>
          have isFile := (mirrors.files _ content).mpr ⟨key, rfl, isStored⟩
          rw [found] at isFile
          cases isFile
  | some entry =>
      cases entry with
      | file content =>
          obtain ⟨other, sameKey, isStored⟩ := (mirrors.files _ content).mp found
          rw [keySegments_injective sameKey, isStored]
          rfl
      | directory =>
          obtain ⟨record, member, isFolder⟩ :=
            mirrors.folders _ (keySegments_ne_nil key) found
          exact ((untangled record member).2 isFolder).elim

/-- An untangled key that is accepted is prepared, and nothing changes at its
own place. -/
theorem Mirrors.exists_prepared
    (plain : IsPlainKey key)
    (untangled : IsUntangled past key)
    (accepts : storage.Accepts key) :
    ∃ made,
      storage.prepare disk key = (.ok (storage.file key), made) ∧
      made.locate (storage.file key) =
        .ok (storage.root.plainParts ++ keySegments key) ∧
      made.entry? (storage.root.plainParts ++ keySegments key) =
        (storedObject? past key).map .file := by
  have free :
      ∀ names content,
        IsFolderOf names key →
        disk.entry? (storage.root.plainParts ++ names) ≠
          some (.file content) := by
    intro names content isFolder isFile
    obtain ⟨other, rfl, isStored⟩ := (mirrors.files names content).mp isFile
    obtain ⟨record, member, _, rfl⟩ := exists_done_of_storedObject? isStored
    exact (untangled record member).1 isFolder
  obtain ⟨made, prepared, located⟩ :=
    LocalStorage.exists_prepared plain accepts mirrors.rooted free
  have own := entry?_own_of_prepare plain mirrors.rooted
  rw [prepared] at own
  exact ⟨made, prepared, located, own.trans (mirrors.entry?_eq untangled)⟩

/-- To prepare a key changes nothing for paths that avoid the storage. -/
theorem Mirrors.agreeAlong
    {made : Disk}
    {result : Outcome Path}
    (plain : IsPlainKey key)
    (prepared : storage.prepare disk key = (result, made))
    {path : Path}
    (avoids : storage.Avoids path) :
    made.AgreeAlong disk [] path.parts := by
  intro above isAbove
  have entries :=
    entry?_of_prepare plain mirrors.rooted (above.foldl Place.next [])
  rw [prepared] at entries
  rcases entries with same | ⟨_, _, names, some, _, isPlace⟩
  · exact same
  · have atRoot :=
      avoids above isAbove (isPlace ▸ List.prefix_append _ _)
    rw [isPlace] at atRoot
    exact (some (List.append_right_eq_self.mp atRoot)).elim

variable (plain : IsPlainKey key) (untangled : IsUntangled past key)
  (accepts : storage.Accepts key)

include plain untangled accepts

theorem Mirrors.answer_upload
    {source : Path}
    (avoids : storage.Avoids source) :
    (storage.record disk (.upload source key)).answer.toOption =
      storage.answer? (storedObject? past) disk (.upload source key) := by
  obtain ⟨made, prepared, located, entry⟩ :=
    mirrors.exists_prepared plain untangled accepts
  have sameSource : made.fileAt? source = disk.fileAt? source :=
    Disk.fileAt?_congr (mirrors.agreeAlong plain prepared avoids)
  have noDirectory :
      made.entry? (storage.root.plainParts ++ keySegments key) ≠
        some .directory := by
    rw [entry]
    cases storedObject? past key <;> simp
  have isWritable := Disk.writable_eq_ok_iff.mpr ⟨located, noDirectory⟩
  have copies :=
    made.exists_copy_eq_ok_iff (avoids.plainParts_ne plain)
      (.sameFile (quoted source.toText) (storage.file key).shown)
  rw [answer_of_upload prepared, map_toOption_eq_ite copies, answer?]
  simp [sameSource, accepts, accepts.usable, isWritable, Except.isOk,
    Except.toBool]

theorem Mirrors.answer_download
    {destination : Path}
    (avoids : storage.Avoids destination) :
    (storage.record disk (.download key destination)).answer.toOption =
      storage.answer? (storedObject? past) disk
        (.download key destination) := by
  obtain ⟨made, prepared, located, entry⟩ :=
    mirrors.exists_prepared plain untangled accepts
  have sameDestination : made.writable destination = disk.writable destination :=
    Disk.writable_congr (mirrors.agreeAlong plain prepared avoids)
  have sameObject :
      made.fileAt? (storage.file key) = storedObject? past key := by
    apply Option.ext
    intro content
    rw [Disk.fileAt?_eq_some_iff]
    simp [accepts.usable, located, entry]
  have copies :=
    made.exists_copy_eq_ok_iff (avoids.plainParts_ne plain).symm
      (.sameFile (storage.file key).shown (quoted destination.toText))
  rw [answer_of_download prepared, map_toOption_eq_ite copies, answer?]
  simp [sameDestination, sameObject, accepts]

theorem Mirrors.answer_holds :
    (storage.record disk (.holds key)).answer.toOption =
      storage.answer? (storedObject? past) disk (.holds key) := by
  obtain ⟨made, prepared, located, entry⟩ :=
    mirrors.exists_prepared plain untangled accepts
  rw [answer_of_holds prepared, Disk.holds_of_locate accepts.usable located,
    entry, Option.isSome_map, answer?, if_pos accepts]
  rfl

end Answers

/-- Calls about untangled keys are answered from the map. -/
theorem Mirrors.answer_eq
    (mirrors : storage.Mirrors past disk)
    {call : StorageCall}
    (allows : storage.Allows call)
    (untangled : IsUntangled past call.key)
    (avoids : ∀ path ∈ call.other?, storage.Avoids path) :
    (storage.record disk call).answer.toOption =
      storage.answer? (storedObject? past) disk call := by
  by_cases accepts : storage.Accepts call.key
  · cases call with
    | upload source key =>
        exact mirrors.answer_upload allows.plain untangled accepts
          (avoids source rfl)
    | download key destination =>
        exact mirrors.answer_download allows.plain untangled accepts
          (avoids destination rfl)
    | holds key => exact mirrors.answer_holds allows.plain untangled accepts
  · have refused : storage.answer? (storedObject? past) disk call = none := by
      cases call <;> simp_all [answer?, StorageCall.key]
    rw [refused]
    have affects := affects_of_call allows mirrors.rooted
    cases isAnswer : (storage.record disk call).answer with
    | error failure => rfl
    | ok answer =>
        have isAccepted := (affects.done ⟨answer, isAnswer⟩).1
        rw [record_call] at isAccepted
        exact (accepts isAccepted).elim

/-- To ask for a key tells whether its object or a folder is there. -/
theorem Mirrors.found_iff
    (mirrors : storage.Mirrors past disk)
    {key : String}
    (plain : IsPlainKey key)
    {found : Bool}
    (held : (storage.holds disk key).1 = .ok found) :
    found = true ↔
      (storedObject? past key).isSome = true ∨
      disk.entry? (storage.root.plainParts ++ keySegments key) =
        some .directory := by
  obtain ⟨made, place, prepared, located⟩ := exists_located_of_holds plain held
  obtain ⟨_, usable, _⟩ := prepare_eq_ok_iff.mp prepared
  have own := entry?_own_of_prepare plain mirrors.rooted
  rw [prepared] at own
  have isFound :
      found =
        (disk.entry?
          (storage.root.plainParts ++ keySegments key)).isSome := by
    rw [← own, ← plainParts_file plain, ← Disk.locate_eq_plainParts located]
    have answer := Disk.holds_of_locate usable located
    simp only [holds, prepared] at held
    exact Except.ok.inj (held.symm.trans answer)
  have files := mirrors.files (keySegments key)
  rw [isFound]
  cases isEntry : disk.entry? (storage.root.plainParts ++ keySegments key) with
  | none =>
      have notStored : storedObject? past key = none := by
        rw [Option.eq_none_iff_forall_ne_some]
        intro content isStored
        have isFile := (files content).mpr ⟨key, rfl, isStored⟩
        rw [isEntry] at isFile
        cases isFile
      simp [notStored]
  | some entry =>
      cases entry with
      | directory => simp
      | file content =>
          obtain ⟨other, sameKey, isStored⟩ := (files content).mp isEntry
          rw [← keySegments_injective sameKey] at isStored
          simp [isStored]

/-! ## The storage as a map -/

/-- How a storage with a history is, and is not, a map. -/
structure Refines
    (storage : LocalStorage)
    (past : List StorageRecord)
    (disk : Disk) :
    Prop where
  /-- The files of keys are the objects of the map. -/
  objects :
    ∀ key,
      IsPlainKey key →
      disk.fileAt? (storage.file key) = storedObject? past key
  /-- An upload that succeeds stores its source under its key alone. -/
  uploaded :
    ∀ source key,
      IsPlainKey key →
      (storage.record disk (.upload source key)).IsDone →
      ∃ content,
        (storage.record disk (.upload source key)).after.fileAt? source =
          some content ∧
        ∀ other,
          IsPlainKey other →
          (storage.record disk (.upload source key)).after.fileAt?
              (storage.file other) =
            if other = key then some content else storedObject? past other
  /-- A download that succeeds writes what was stored last. -/
  downloaded :
    ∀ key destination,
      storage.Allows (.download key destination) →
      (storage.record disk (.download key destination)).IsDone →
      ∃ content,
        storedObject? past key = some content ∧
        (storage.record disk (.download key destination)).after.fileAt?
            destination =
          some content
  /-- All other calls, and those that fail, leave the map. -/
  kept :
    ∀ call,
      storage.Allows call →
      (storage.record disk call).stored? = none →
      ∀ key,
        IsPlainKey key →
        (storage.record disk call).after.fileAt? (storage.file key) =
          storedObject? past key
  /-- What is outside of the storage stays, but for what a download writes. -/
  outside :
    ∀ call,
      storage.Allows call →
      ∀ place,
        ¬storage.root.plainParts <+: place →
        (∀ key destination,
          call = .download key destination →
          place ≠ destination.plainParts) →
        (storage.record disk call).after.entry? place = disk.entry? place
  /-- A key is said to be there if the map has it or it is a folder. -/
  found :
    ∀ key found,
      IsPlainKey key →
      (storage.holds disk key).1 = .ok found →
      (found = true ↔
        (storedObject? past key).isSome = true ∨
        disk.entry? (storage.root.plainParts ++ keySegments key) =
          some .directory)
  /-- Only keys below it make a key a folder. -/
  folders :
    ∀ key,
      disk.entry? (storage.root.plainParts ++ keySegments key) =
        some .directory →
      ∃ record ∈ past, IsFolderOf (keySegments key) record.call.key
  /-- Every call about such a key does so unless it fails. -/
  ways :
    ∀ record ∈ past,
      record.IsDone →
      ∀ key,
        IsFolderOf (keySegments key) record.call.key →
        disk.entry? (storage.root.plainParts ++ keySegments key) =
          some .directory
  /-- Calls about untangled keys are answered from the map. -/
  answered :
    ∀ call,
      storage.Allows call →
      IsUntangled past call.key →
      (∀ path ∈ call.other?, storage.Avoids path) →
      (storage.record disk call).answer.toOption =
        storage.answer? (storedObject? past) disk call

end LocalStorage

end Montage
