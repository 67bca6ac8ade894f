import Montage.Asset.Resolver
import Montage.Proofs.Disk.Alike
import Montage.Proofs.Storage.Local
import Montage.Proofs.Work.Run
import Montage.Scenario.World

namespace Montage

/-!
# What a download reads

A download reads no file but those below the root of the storage: in two worlds
that differ only in what is in other files, it comes to the same, and leaves
the worlds to differ in nothing more. What it writes into its destination it
wrote itself.
-/

/-! ## The storage -/

namespace LocalStorage

variable {storage : LocalStorage} {key : String} {visible : Place → Prop}
  {first second : Disk}

/-- To check a key and to make its directories reads no file. -/
theorem prepare_alike
    (alike : first.Alike visible second)
    (key : String) :
    (storage.prepare first key).1 = (storage.prepare second key).1 ∧
    (storage.prepare first key).2.Alike visible
      (storage.prepare second key).2 := by
  have made := alike.makeDirectories (storage.file key).parent
  unfold prepare
  dsimp only
  cases (storage.file key).refusal? with
  | some failure => exact ⟨rfl, alike⟩
  | none =>
      cases (storage.file key).isWithin storage.root with
      | false => exact ⟨rfl, alike⟩
      | true =>
        generalize first.makeDirectories (storage.file key).parent = done
          at made ⊢
        generalize second.makeDirectories (storage.file key).parent = other
          at made ⊢
        obtain ⟨result, madeDisk⟩ := done
        obtain ⟨otherResult, otherDisk⟩ := other
        obtain ⟨rfl, alikeMade⟩ := made
        cases result <;> exact ⟨rfl, alikeMade⟩

/-- All that stands stays where a key is checked. -/
theorem prepare_stays
    (storage : LocalStorage)
    (disk : Disk)
    (key : String)
    (place : Place)
    (entry : Entry)
    (stands : disk.entry? place = some entry) :
    Disk.entry? (storage.prepare disk key).2 place = some entry := by
  have made := Disk.entry?_makeDirectories (storage.file key).parent stands
  unfold prepare
  dsimp only
  cases (storage.file key).refusal? with
  | some failure => exact stands
  | none =>
      cases (storage.file key).isWithin storage.root with
      | false => exact stands
      | true =>
        generalize disk.makeDirectories (storage.file key).parent = done
          at made ⊢
        obtain ⟨result, madeDisk⟩ := done
        cases result <;> exact made

/-- A key that is refused is told so, and nothing is copied. -/
theorem download_of_refused
    {disk made : Disk}
    {failure : Failure}
    (refused : storage.prepare disk key = (.error failure, made))
    (destination : Path) :
    storage.download disk key destination = (.error failure, made) := by
  unfold download
  rw [refused]

/-- To copy the object of a plain key reads only below the root. -/
theorem download_alike
    (plain : IsPlainKey key)
    {root : Place}
    (rooted : storage.root.parts.foldlM first.enter [] = .ok root)
    (below : ∀ place, root <+: place → visible place)
    (alike : first.Alike visible second)
    (destination : Path) :
    (storage.download first key destination).1 =
      (storage.download second key destination).1 ∧
    (storage.download first key destination).2.Alike visible
      (storage.download second key destination).2 := by
  have prepared := storage.prepare_alike alike key
  have stays := storage.prepare_stays first key
  cases ready : storage.prepare first key with
  | mk result made =>
  cases otherReady : storage.prepare second key with
  | mk otherResult otherMade =>
  rw [ready, otherReady] at prepared
  rw [ready] at stays
  obtain ⟨same, alikeMade⟩ := prepared
  dsimp only at same alikeMade stays
  subst same
  cases result with
  | error failure =>
      rw [download_of_refused ready, download_of_refused otherReady]
      exact ⟨rfl, alikeMade⟩
  | ok file =>
      have isFile := file_of_prepare ready
      have stillRooted :=
        Disk.foldlM_enter_of_enter (Disk.enter_of_stays stays) rooted
      have sameFile : made.fileAt? file = otherMade.fileAt? file := by
        apply alikeMade.fileAt?_eq
        intro place located
        rw [isFile] at located
        obtain ⟨found, foundRoot, isPlace⟩ := place_of_key plain located
        have isRoot : found = root :=
          Except.ok.inj (foundRoot.symm.trans stillRooted)
        rw [isPlace, isRoot]
        exact below _ (List.prefix_append _ _)
      have copied :=
        alikeMade.copy sameFile destination
          (.sameFile file.shown (quoted destination.toText))
      unfold download
      rw [ready, otherReady]
      dsimp only
      generalize made.copy file destination _ = outcome at copied ⊢
      generalize otherMade.copy file destination _ = other at copied ⊢
      cases copied with
      | ok alikeCopied => exact ⟨rfl, alikeCopied⟩
      | error failure => exact ⟨rfl, alikeMade⟩

end LocalStorage

/-! ## Worlds -/

/-- Two worlds differ at most in what is in files that are not visible. -/
structure World.Twins
    (visible : Place → Prop)
    (first second : World) :
    Prop where
  alike : first.disk.Alike visible second.disk
  elsewhere : second = { first with disk := second.disk }

/-- A program comes to the same in two worlds, and leaves them twins. -/
structure Program.SameRun
    {α : Type}
    (visible : Place → Prop)
    (first second : World)
    (program : Program α) :
    Prop where
  value : (first.run program).1 = (second.run program).1
  twins : World.Twins visible (first.run program).2 (second.run program).2

namespace Program.SameRun

variable {α β : Type} {visible : Place → Prop} {first second : World}

theorem done
    (twins : first.Twins visible second)
    (value : α) :
    SameRun visible first second (.done value) :=
  ⟨rfl, twins⟩

/-- A program that gets the same answer goes on alike. -/
theorem answered
    {call : Call}
    {next : call.Answer → Program α}
    {answer : call.Answer}
    {firstAfter secondAfter : World}
    (isFirst : first.answer call = (answer, firstAfter))
    (isSecond : second.answer call = (answer, secondAfter))
    (goesOn : SameRun visible firstAfter secondAfter (next answer)) :
    SameRun visible first second (.step call next) := by
  obtain ⟨value, twins⟩ := goesOn
  unfold World.run at value twins
  constructor <;> unfold World.run Program.run <;> rw [isFirst, isSecond]
  · exact value
  · exact twins

theorem run_andThen
    (world : World)
    (program : Program α)
    (continuation : α → Program β) :
    world.run (program.andThen continuation) =
      (world.run program).2.run (continuation (world.run program).1) := by
  unfold World.run
  induction program generalizing world with
  | done value => rfl
  | step call next inductionHypothesis => exact inductionHypothesis _ _

theorem andThen
    {program : Program α}
    {continuation : α → Program β}
    (same : SameRun visible first second program)
    (goesOn :
      SameRun visible (first.run program).2 (second.run program).2
        (continuation (first.run program).1)) :
    SameRun visible first second (program.andThen continuation) := by
  constructor
  · rw [run_andThen, run_andThen, goesOn.value, same.value]
  · rw [run_andThen, run_andThen, ← same.value]
    exact goesOn.twins

/-- What only ends after a program adds nothing to it. -/
theorem ended
    {program : Program α}
    {continuation : α → Program β}
    (same : SameRun visible first second program)
    (ends : ∀ value, ∃ result, continuation value = .done result) :
    SameRun visible first second (program.andThen continuation) := by
  refine same.andThen ?_
  obtain ⟨result, isDone⟩ := ends (first.run program).1
  rw [isDone]
  exact .done same.twins result

end Program.SameRun

namespace World.Twins

variable {visible : Place → Prop} {first second : World}

theorem exists_disk
    (twins : first.Twins visible second) :
    ∃ other,
      first.disk.Alike visible other ∧
      second = { first with disk := other } :=
  ⟨second.disk, twins.alike, twins.elsewhere⟩

/-- What an operation did on both disks is kept, or told as a failure. -/
theorem keepDisk_cases
    (twins : first.Twins visible second)
    {outcome other : Outcome Disk}
    (alike : Disk.AlikeOutcome visible outcome other) :
    (∃ failure,
      first.keepDisk outcome = (.error failure, first) ∧
      second.keepDisk other = (.error failure, second)) ∨
    ∃ firstAfter secondAfter,
      outcome = .ok firstAfter.disk ∧
      other = .ok secondAfter.disk ∧
      first.keepDisk outcome = (.ok (), firstAfter) ∧
      second.keepDisk other = (.ok (), secondAfter) ∧
      firstAfter.Twins visible secondAfter := by
  cases alike with
  | error failure => exact .inl ⟨failure, rfl, rfl⟩
  | ok alikeAfter =>
      obtain ⟨_, _, rfl⟩ := twins.exists_disk
      exact .inr ⟨{ first with disk := _ }, { first with disk := _ },
        rfl, rfl, rfl, rfl, ⟨alikeAfter, rfl⟩⟩

end World.Twins

/-! ## Downloads -/

section Downloads

variable {visible : Place → Prop} {first second : World}

theorem askRemote_sameRun
    (twins : first.Twins visible second)
    (count : Nat)
    (address : Address) :
    (askRemote count address).SameRun visible first second := by
  induction count generalizing address first second with
  | zero => exact .done twins _
  | succ remaining inductionHypothesis =>
      obtain ⟨other, alike, rfl⟩ := twins.exists_disk
      refine .answered rfl rfl ?_
      split
      · exact .done ⟨alike, rfl⟩ _
      · exact .done ⟨alike, rfl⟩ _
      · split
        · exact inductionHypothesis ⟨alike, rfl⟩ _
        · exact .done ⟨alike, rfl⟩ _
        · exact .done ⟨alike, rfl⟩ _

theorem askSuccessfully_sameRun
    (twins : first.Twins visible second)
    (address : String) :
    (askSuccessfully address).SameRun visible first second := by
  unfold askSuccessfully
  split
  · exact .done twins _
  · exact (askRemote_sameRun twins _ _).ended fun _ => ⟨_, rfl⟩

/-- Bytes are written at the end of a file that is the same in both worlds. -/
theorem appendBlocks_sameRun
    (twins : first.Twins visible second)
    {destination : Path}
    (sameFile :
      first.disk.fileAt? destination = second.disk.fileAt? destination)
    (blocks : List Bytes) :
    (appendBlocks destination blocks).SameRun visible first second := by
  induction blocks generalizing first second with
  | nil => exact .done twins _
  | cons block rest inductionHypothesis =>
      rcases twins.keepDisk_cases (twins.alike.append sameFile block) with
        ⟨failure, isFirst, isSecond⟩ |
        ⟨firstAfter, secondAfter, done, otherDone, isFirst, isSecond, after⟩
      · exact .answered isFirst isSecond (.done twins _)
      · refine .answered isFirst isSecond (inductionHypothesis after ?_)
        obtain ⟨before, stood, stands⟩ := Disk.fileAt?_append done
        obtain ⟨otherBefore, otherStood, otherStands⟩ :=
          Disk.fileAt?_append otherDone
        rw [sameFile, otherStood] at stood
        rw [stands, otherStands, Option.some.inj stood]

/-- A file that is written anew is the same in both worlds from then on. -/
theorem writeReply_sameRun
    (twins : first.Twins visible second)
    (destination : Path)
    (reply : Reply) :
    (writeReply destination reply).SameRun visible first second := by
  rcases twins.keepDisk_cases (twins.alike.write destination []) with
    ⟨failure, isFirst, isSecond⟩ |
    ⟨firstAfter, secondAfter, done, otherDone, isFirst, isSecond, after⟩
  · exact .answered isFirst isSecond (.done twins _)
  · obtain ⟨_, _, _, stands⟩ := Disk.changedAt_of_write done
    obtain ⟨_, _, _, otherStands⟩ := Disk.changedAt_of_write otherDone
    have appended :=
      appendBlocks_sameRun after (stands.trans otherStands.symm) reply.blocks
    refine .answered isFirst isSecond (appended.ended ?_)
    intro written
    split <;> exact ⟨_, rfl⟩

theorem downloadRemote_sameRun
    (twins : first.Twins visible second)
    (address : String)
    (destination : Path) :
    (downloadRemote address destination).SameRun visible first second := by
  have asked := askSuccessfully_sameRun twins address
  refine asked.andThen ?_
  cases (first.run (askSuccessfully address)).1 with
  | error failure => exact .done asked.twins _
  | ok reply =>
      exact (writeReply_sameRun asked.twins destination reply).ended
        fun _ => ⟨_, rfl⟩

variable {store : LocalStorage} {root : Place}

/-- A download reads only below the root of the storage. -/
theorem download_sameRun
    (twins : first.Twins visible second)
    (isLocal : first.storage = .directory store)
    (rooted : store.root.parts.foldlM first.disk.enter [] = .ok root)
    (below : ∀ place, root <+: place → visible place)
    (storageBase : Option String)
    (address : String)
    (destination : Path) :
    (download storageBase address destination).SameRun visible first
      second := by
  unfold download
  cases found : storageBase.bind (keyOfAddress? address) with
  | none => exact downloadRemote_sameRun twins address destination
  | some key =>
      obtain ⟨base, _, isKey⟩ := Option.bind_eq_some_iff.mp found
      obtain ⟨other, alike, rfl⟩ := twins.exists_disk
      obtain ⟨same, alikeCopied⟩ :=
        LocalStorage.download_alike (isPlainKey_of_keyOfAddress? isKey) rooted
          below alike destination
      have isAnswer :
          ∀ world : World, world.storage = .directory store →
            world.answer (.download key destination) =
              ((store.download world.disk key destination).1,
                { world with
                  disk := (store.download world.disk key destination).2 }) := by
        intro world isStore
        simp only [World.answer, World.downloadObject, ObjectStorage.download,
          isStore]
        rfl
      have isSecond :
          World.answer { first with disk := other } (.download key destination) =
            ((store.download first.disk key destination).1,
              { first with
                disk := (store.download other key destination).2 }) := by
        rw [same]
        exact isAnswer _ isLocal
      refine .answered (isAnswer first isLocal) isSecond ?_
      cases (store.download first.disk key destination).1 with
      | ok done => exact .done ⟨alikeCopied, rfl⟩ _
      | error failure => exact downloadRemote_sameRun ⟨alikeCopied, rfl⟩ _ _

/-- To fetch an asset reads only below the root of the storage. -/
theorem fetch_sameRun
    (twins : first.Twins visible second)
    (isLocal : first.storage = .directory store)
    (rooted : store.root.parts.foldlM first.disk.enter [] = .ok root)
    (below : ∀ place, root <+: place → visible place)
    (storageBase : Option String)
    (reference : AssetReference)
    (files : JobFiles) :
    ((reference.fetch storageBase).start files).SameRun visible first
      second := by
  unfold AssetReference.fetch
  rw [JobProgram.start_bind, JobProgram.start_files]
  simp only [Program.andThen]
  cases getField? reference.address files.assets with
  | some path => exact .done twins _
  | none =>
      unfold AssetReference.reserve
      simp only [JobProgram.start_bind, JobProgram.start_ofOutcome,
        JobProgram.start_files, JobProgram.start_reserve,
        JobProgram.start_rememberAsset, JobProgram.start_pure,
        JobProgram.start_attempt, Program.andThen]
      cases assetExtension reference.address reference.kind with
      | error failure => exact .done twins _
      | ok extension =>
          have downloaded :=
            (download_sameRun twins isLocal rooted below storageBase
              reference.address
              (files.workspace.named
                ("_asset_" ++ showNatural files.assets.length ++ extension)))
          dsimp only [Program.andThen]
          refine .ended (.ended downloaded fun _ => ⟨_, rfl⟩) ?_
          rintro ⟨outcome, after⟩
          cases outcome <;> exact ⟨_, rfl⟩

end Downloads

/-! ## Addresses of a storage -/

namespace LocalStorage

/-- A place is that of the root, or below it. -/
def Covers
    (storage : LocalStorage)
    (disk : Disk)
    (place : Place) :
    Prop :=
  ∃ root,
    storage.root.parts.foldlM disk.enter [] = .ok root ∧ root <+: place

/-- A key leads nowhere but below the root. -/
structure Confines
    (storage : LocalStorage)
    (key : String) :
    Prop where
  /-- There is a segment, and every one goes down by one name. -/
  goesDown :
    keySegments key ≠ [] ∧
    ∀ segment ∈ keySegments key, IsKeySegment segment
  /-- The path is that of the root and the segments. -/
  path :
    storage.file key =
      { storage.root with parts := storage.root.parts ++ keySegments key }
  /-- So is the place, wherever the root is. -/
  place :
    ∀ disk place,
      Disk.locate disk (storage.file key) = .ok place →
      ∃ root,
        storage.root.parts.foldlM disk.enter [] = .ok root ∧
        place = root ++ keySegments key
  /-- What is not refused is that path. -/
  accepted :
    ∀ disk file made,
      storage.prepare disk key = (.ok file, made) →
      file = storage.file key
  /-- What is refused is not copied. -/
  refused :
    ∀ disk failure made destination,
      storage.prepare disk key = (.error failure, made) →
      storage.download disk key destination = (.error failure, made)
  /-- No file decides on it. -/
  unread :
    ∀ first second,
      Disk.Alike (fun _ => False) first second →
      (storage.prepare first key).1 = (storage.prepare second key).1

theorem confines_of_isPlainKey
    (storage : LocalStorage)
    {key : String}
    (plain : IsPlainKey key) :
    storage.Confines key where
  goesDown := ⟨keySegments_ne_nil key, fun _ => plain.isKeySegment⟩
  path := file_eq plain
  place := fun _ _ => place_of_key plain
  accepted := fun _ _ _ => file_of_prepare
  refused := fun _ _ _ destination refused =>
    download_of_refused refused destination
  unread := fun _ _ alike => (prepare_alike alike key).1

end LocalStorage

end Montage
