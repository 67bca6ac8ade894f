import Montage.Proofs.Disk.Files

namespace Montage

/-!
# Disks that look alike

Two disks look alike at some places if they hold the same there, and elsewhere
differ only in what is in their files. An operation that reads no file from
elsewhere does the same on both, and leaves them alike.
-/

/-- Whether an entry is a directory. -/
def Entry.isDirectory : Entry → Bool
  | file _ => false
  | directory => true

namespace Disk

/-- Two disks hold the same at the visible places, and the same kinds of
entries everywhere. -/
structure Alike
    (visible : Place → Prop)
    (first second : Disk) :
    Prop where
  sameKinds :
    ∀ place,
      (first.entry? place).map Entry.isDirectory =
        (second.entry? place).map Entry.isDirectory
  sameVisible :
    ∀ place, visible place → first.entry? place = second.entry? place

/-- An operation did the same on two disks. -/
inductive AlikeOutcome
    (visible : Place → Prop) :
    Outcome Disk → Outcome Disk → Prop
  | ok {first second : Disk} :
      first.Alike visible second →
        AlikeOutcome visible (.ok first) (.ok second)
  | error (failure : Failure) :
      AlikeOutcome visible (.error failure) (.error failure)

namespace Alike

variable {visible : Place → Prop} {first second : Disk}

theorem refl (disk : Disk) : disk.Alike visible disk :=
  ⟨fun _ => rfl, fun _ _ => rfl⟩

/-- Disks that look alike do so at fewer places. -/
theorem mono
    {fewer : Place → Prop}
    (subset : ∀ place, fewer place → visible place)
    (alike : first.Alike visible second) :
    first.Alike fewer second :=
  ⟨alike.sameKinds, fun place isFewer =>
    alike.sameVisible place (subset place isFewer)⟩

/-! ## Looking up -/

/-- An entry has its like on the other disk. -/
theorem entry?_cases
    (alike : first.Alike visible second)
    (place : Place) :
    (first.entry? place = none ∧ second.entry? place = none) ∨
    (first.entry? place = some .directory ∧
      second.entry? place = some .directory) ∨
    ∃ content other,
      first.entry? place = some (.file content) ∧
      second.entry? place = some (.file other) := by
  have sameKinds := alike.sameKinds place
  cases found : first.entry? place <;>
    cases otherFound : second.entry? place <;>
      simp only [found, otherFound, Option.map_none, Option.map_some,
        reduceCtorEq, Option.some.injEq] at sameKinds
  case none.none => simp
  case some.some entry other =>
    cases entry <;> cases other <;> simp [Entry.isDirectory] at sameKinds ⊢

theorem enter_eq
    (alike : first.Alike visible second) :
    first.enter = second.enter := by
  funext place part
  unfold enter
  rcases alike.entry?_cases (place ++ [part]) with
    ⟨found, otherFound⟩ | ⟨found, otherFound⟩ |
    ⟨content, other, found, otherFound⟩ <;>
  simp only [found, otherFound]

theorem locate_eq
    (alike : first.Alike visible second) :
    first.locate = second.locate := by
  funext path
  unfold locate
  rw [alike.enter_eq]

/-- What a path leads to has its like on the other disk. -/
theorem status_cases
    (alike : first.Alike visible second)
    (path : Path) :
    (∃ cause,
      first.status path = .error cause ∧
      second.status path = .error cause) ∨
    (∃ place,
      first.status path = .ok (place, .directory) ∧
      second.status path = .ok (place, .directory)) ∨
    ∃ place content other,
      first.locate path = .ok place ∧
      first.status path = .ok (place, .file content) ∧
      second.status path = .ok (place, .file other) := by
  unfold status
  rw [← alike.locate_eq]
  cases first.locate path with
  | error cause => exact .inl ⟨cause, rfl, rfl⟩
  | ok place =>
      simp only [Bind.bind, Except.bind]
      rcases alike.entry?_cases place with
        ⟨found, otherFound⟩ | ⟨found, otherFound⟩ |
        ⟨content, other, found, otherFound⟩
      · exact .inl ⟨.missing, by rw [found], by rw [otherFound]⟩
      · exact .inr <| .inl ⟨place, by rw [found], by rw [otherFound]⟩
      · exact .inr <| .inr
          ⟨place, content, other, rfl, by rw [found], by rw [otherFound]⟩

theorem isDirectory_eq
    (alike : first.Alike visible second)
    (path : Path) :
    first.isDirectory path = second.isDirectory path := by
  unfold isDirectory
  rcases alike.status_cases path with
    ⟨cause, found, otherFound⟩ | ⟨place, found, otherFound⟩ |
    ⟨place, content, other, _, found, otherFound⟩ <;>
  simp only [found, otherFound]

theorem isSame_eq
    (alike : first.Alike visible second)
    (path other : Path) :
    first.isSame path other = second.isSame path other := by
  unfold isSame
  rcases alike.status_cases path with
    ⟨cause, found, otherFound⟩ | ⟨place, found, otherFound⟩ |
    ⟨place, _, _, _, found, otherFound⟩ <;>
  rcases alike.status_cases other with
    ⟨cause', found', otherFound'⟩ | ⟨place', found', otherFound'⟩ |
    ⟨place', _, _, _, found', otherFound'⟩ <;>
  simp only [found, otherFound, found', otherFound']

/-- A file at a visible place is the same. -/
theorem fileAt?_eq
    (alike : first.Alike visible second)
    {path : Path}
    (isVisible : ∀ place, first.locate path = .ok place → visible place) :
    first.fileAt? path = second.fileAt? path := by
  unfold fileAt?
  rcases alike.status_cases path with
    ⟨cause, found, otherFound⟩ | ⟨place, found, otherFound⟩ |
    ⟨place, content, other, located, found, otherFound⟩
  · simp only [found, otherFound]
  · simp only [found, otherFound]
  · have stands := (status_eq_ok_iff.mp found).2
    have otherStands := (status_eq_ok_iff.mp otherFound).2
    rw [alike.sameVisible place (isVisible place located), otherStands]
      at stands
    cases stands
    simp only [found, otherFound]

/-- To read tells no more than the file that stands there. -/
theorem read_eq
    (alike : first.Alike visible second)
    {path : Path}
    (sameFile : first.fileAt? path = second.fileAt? path) :
    first.read path = second.read path := by
  unfold fileAt? at sameFile
  unfold read
  rcases alike.status_cases path with
    ⟨cause, found, otherFound⟩ | ⟨place, found, otherFound⟩ |
    ⟨place, content, other, _, found, otherFound⟩
  · simp only [found, otherFound]
  · simp only [found, otherFound]
  · simp only [found, otherFound] at sameFile ⊢
    by_cases usable : path.isUsable = true
    · simp only [usable, ↓reduceIte, Option.some.injEq] at sameFile
      rw [sameFile]
    · simp [about, Path.refusal?, usable]

/-! ## Changing -/

/-- The same entry at the same place, which is visible from then on. -/
theorem put
    (alike : first.Alike visible second)
    (place : Place)
    (entry : Entry) :
    Alike (fun other => visible other ∨ other = place)
      (first.put place entry) (second.put place entry) := by
  have here :
      Disk.entry? (first.put place entry) place =
        Disk.entry? (second.put place entry) place := by
    by_cases isRoot : place = []
    · simp [isRoot, entry?]
    · rw [entry?_put_self _ isRoot, entry?_put_self _ isRoot]
  constructor
  · intro other
    by_cases isPlace : other = place
    · rw [isPlace, here]
    · rw [entry?_put_of_ne _ isPlace, entry?_put_of_ne _ isPlace]
      exact alike.sameKinds other
  · intro other isVisible
    by_cases isPlace : other = place
    · rw [isPlace, here]
    · rw [entry?_put_of_ne _ isPlace, entry?_put_of_ne _ isPlace]
      exact alike.sameVisible other (isVisible.resolve_right isPlace)

/-- To put the same entry leaves disks alike. -/
theorem put_alike
    (alike : first.Alike visible second)
    (place : Place)
    (entry : Entry) :
    (first.put place entry).Alike visible (second.put place entry) :=
  (alike.put place entry).mono fun _ => .inl

/-- Disks with different files at one hidden place look alike. -/
theorem put_files
    (disk : Disk)
    {place : Place}
    (hidden : ¬visible place)
    (content other : Bytes) :
    (disk.put place (.file content)).Alike visible
      (disk.put place (.file other)) := by
  constructor
  · intro reached
    by_cases isRoot : reached = []
    · simp [isRoot, entry?]
    by_cases isPlace : reached = place
    · rw [isPlace] at isRoot ⊢
      rw [entry?_put_self _ isRoot, entry?_put_self _ isRoot]
      rfl
    · rw [entry?_put_of_ne _ isPlace, entry?_put_of_ne _ isPlace]
  · intro reached isVisible
    have notPlace : reached ≠ place := by
      rintro rfl
      exact hidden isVisible
    rw [entry?_put_of_ne _ notPlace, entry?_put_of_ne _ notPlace]

theorem makeDirectory
    (alike : first.Alike visible second)
    (path : Path) :
    AlikeOutcome visible (first.makeDirectory path)
      (second.makeDirectory path) := by
  unfold Disk.makeDirectory about
  cases path.refusal? with
  | some failure => exact .error failure
  | none =>
      rw [← alike.locate_eq]
      cases first.locate path with
      | error cause => exact .error _
      | ok place =>
          simp only [Bind.bind, Except.bind]
          rcases alike.entry?_cases place with
            ⟨found, otherFound⟩ | ⟨found, otherFound⟩ |
            ⟨content, other, found, otherFound⟩ <;>
          simp only [found, otherFound]
          · exact .ok (alike.put_alike place .directory)
          · exact .error _
          · exact .error _

theorem makeDirectoriesFrom
    (slashes depth : Nat)
    (parts : List String)
    (alike : first.Alike visible second) :
    (Disk.makeDirectoriesFrom slashes depth parts first).1 =
      (Disk.makeDirectoriesFrom slashes depth parts second).1 ∧
    Alike visible
      (Disk.makeDirectoriesFrom slashes depth parts first).2
      (Disk.makeDirectoriesFrom slashes depth parts second).2 := by
  induction depth generalizing parts first second with
  | zero => exact ⟨rfl, alike⟩
  | succ depth inductionHypothesis =>
      have made := alike.makeDirectory { slashes, parts }
      have sameDirectory := alike.isDirectory_eq { slashes, parts }
      unfold Disk.makeDirectoriesFrom
      dsimp only
      generalize first.makeDirectory { slashes, parts } = outcome at made ⊢
      generalize second.makeDirectory { slashes, parts } = other at made ⊢
      cases made with
      | ok alikeMade => exact ⟨rfl, alikeMade⟩
      | error failure =>
          rw [sameDirectory]
          cases failure with
          | file cause text =>
              cases cause with
              | missing =>
                  cases parts.isEmpty with
                  | true => exact ⟨rfl, alike⟩
                  | false =>
                      have above := inductionHypothesis parts.dropLast alike
                      generalize
                        Disk.makeDirectoriesFrom slashes depth parts.dropLast
                          first = below at above ⊢
                      generalize
                        Disk.makeDirectoriesFrom slashes depth parts.dropLast
                          second = otherBelow at above ⊢
                      obtain ⟨result, below⟩ := below
                      obtain ⟨otherResult, otherBelow⟩ := otherBelow
                      obtain ⟨rfl, alikeBelow⟩ := above
                      cases result with
                      | error failure => exact ⟨rfl, alikeBelow⟩
                      | ok done =>
                          let path : Path := { slashes, parts }
                          have again := alikeBelow.makeDirectory path
                          have sameBelow := alikeBelow.isDirectory_eq path
                          dsimp only [path] at again sameBelow ⊢
                          rw [sameBelow]
                          generalize otherBelow.isDirectory _ = isThere
                          generalize below.makeDirectory _ = done at again ⊢
                          generalize otherBelow.makeDirectory _ = others at again ⊢
                          cases again with
                          | ok alikeMade => exact ⟨rfl, alikeMade⟩
                          | error failure =>
                              cases isThere <;> exact ⟨rfl, alikeBelow⟩
              | _ =>
                  cases second.isDirectory { slashes, parts } <;>
                    exact ⟨rfl, alike⟩
          | _ => exact ⟨rfl, alike⟩

theorem makeDirectories
    (alike : first.Alike visible second)
    (path : Path) :
    (first.makeDirectories path).1 = (second.makeDirectories path).1 ∧
    (first.makeDirectories path).2.Alike visible
      (second.makeDirectories path).2 :=
  alike.makeDirectoriesFrom _ _ _

/-- To write a file does the same on both disks. -/
theorem write
    (alike : first.Alike visible second)
    (path : Path)
    (content : Bytes) :
    AlikeOutcome visible (first.write path content)
      (second.write path content) := by
  unfold Disk.write about
  cases path.refusal? with
  | some failure => exact .error failure
  | none =>
      unfold writable
      rw [← alike.locate_eq]
      cases first.locate path with
      | error cause => exact .error _
      | ok place =>
          simp only [Bind.bind, Except.bind]
          rcases alike.entry?_cases place with
            ⟨found, otherFound⟩ | ⟨found, otherFound⟩ |
            ⟨content', other, found, otherFound⟩ <;>
          simp only [found, otherFound]
          · exact .ok (alike.put_alike place (.file content))
          · exact .error _
          · exact .ok (alike.put_alike place (.file content))

/-- To write at the end of a file that is the same on both disks does the same
on both. -/
theorem append
    (alike : first.Alike visible second)
    {path : Path}
    (sameFile : first.fileAt? path = second.fileAt? path)
    (content : Bytes) :
    AlikeOutcome visible (first.append path content)
      (second.append path content) := by
  unfold Disk.append
  rw [alike.read_eq sameFile]
  cases second.read path with
  | error failure => exact .error failure
  | ok earlier => exact alike.write path (earlier ++ content)

/-- To copy a file that is the same on both disks does the same on both. -/
theorem copy
    (alike : first.Alike visible second)
    {source : Path}
    (sameFile : first.fileAt? source = second.fileAt? source)
    (destination : Path)
    (sameFailure : Failure) :
    AlikeOutcome visible (first.copy source destination sameFailure)
      (second.copy source destination sameFailure) := by
  unfold Disk.copy
  cases source.refusal? <|> destination.refusal? with
  | some failure => exact .error failure
  | none =>
      dsimp only
      rw [alike.isSame_eq, alike.read_eq sameFile]
      split
      · exact .error sameFailure
      · cases second.read source with
        | error failure => exact .error failure
        | ok content => exact alike.write destination content

end Alike

end Disk

end Montage
