import Montage.Disk.Basic

namespace Montage

/-!
# Files of one directory

A file is found by its path, as long as it is a file and the path leads to it.
A change of the file at one place leaves the files at all other names of the
directory, since files are not on the way to them.
-/

namespace Path

/-- The path of a name in a directory. -/
def child
    (directory : Path)
    (name : String) :
    Path :=
  { directory with parts := directory.parts ++ [name] }

/-- A path is that of a name in a directory. -/
def IsIn (path directory : Path) : Prop :=
  ∃ name, name ≠ ".." ∧ path = directory.child name

theorem child_injective
    {directory : Path}
    {first second : String}
    (same : directory.child first = directory.child second) :
    first = second := by
  have parts := congrArg Path.parts same
  exact List.singleton_inj.mp (List.append_cancel_left parts)

theorem refusal?_of_isUsable
    {path : Path}
    (usable : path.isUsable = true) :
    path.refusal? = none := by
  simp [refusal?, usable]

/-- A name that no file can have is none of the failures of the system. -/
theorem refusal?_of_not_isUsable
    {path : Path}
    (unusable : path.isUsable = false) :
    ∃ failure,
      path.refusal? = some failure ∧ failure.failureClass ≠ .system := by
  cases run : surrogatesFrom? isBareSurrogate path.toText.toList with
  | some units =>
      exact ⟨.loneSurrogates units, by simp [refusal?, unusable, run],
        by simp [Failure.failureClass]⟩
  | none =>
      exact ⟨.nullCharacter, by simp [refusal?, unusable, run],
        by simp [Failure.failureClass]⟩

end Path

namespace Disk

/-- An operation that succeeds is about a path that can be used. -/
theorem about_eq_ok_iff
    {α : Type}
    {path : Path}
    {result : Except FileCause α}
    {value : α} :
    about path result = .ok value ↔
      path.isUsable = true ∧ result = .ok value := by
  cases usable : path.isUsable with
  | true =>
      unfold about
      rw [Path.refusal?_of_isUsable usable]
      cases result with
      | ok found =>
          change (Except.ok found : Outcome α) = .ok value ↔ _
          simp
      | error cause =>
          change (Except.error _ : Outcome α) = .ok value ↔ _
          simp
  | false =>
      obtain ⟨failure, refused, _⟩ := Path.refusal?_of_not_isUsable usable
      simp [about, refused]

/-- The content of the file at a path, if a file stands there. -/
def fileAt?
    (disk : Disk)
    (path : Path) :
    Option Bytes :=
  if path.isUsable then
    match disk.status path with
    | .ok (_, .file content) => some content
    | _ => none
  else
    none

theorem fileAt?_of_not_isUsable
    (disk : Disk)
    {path : Path}
    (unusable : path.isUsable = false) :
    disk.fileAt? path = none := by
  simp [fileAt?, unusable]

/-- An entry stands at a path if the path leads to it. -/
theorem status_eq_ok_iff
    {disk : Disk}
    {path : Path}
    {place : Place}
    {entry : Entry} :
    disk.status path = .ok (place, entry) ↔
      disk.locate path = .ok place ∧ disk.entry? place = some entry := by
  unfold status
  cases disk.locate path with
  | error cause => simp [Bind.bind, Except.bind]
  | ok reached =>
      cases found : disk.entry? reached with
      | none =>
          simp only [Bind.bind, Except.bind, found, reduceCtorEq,
            Except.ok.injEq, false_iff, not_and]
          rintro rfl
          simp [found]
      | some other =>
          simp only [Bind.bind, Except.bind, found, Except.ok.injEq,
            Prod.mk.injEq]
          constructor
          · rintro ⟨rfl, rfl⟩
            exact ⟨rfl, found⟩
          · rintro ⟨rfl, stands⟩
            exact ⟨rfl, Option.some.inj (found.symm.trans stands)⟩

/-- A file stands at a path if the path leads to it. -/
theorem fileAt?_eq_some_iff
    {disk : Disk}
    {path : Path}
    {content : Bytes} :
    disk.fileAt? path = some content ↔
      path.isUsable = true ∧
      ∃ place,
        disk.locate path = .ok place ∧
        disk.entry? place = some (.file content) := by
  unfold fileAt?
  simp only [← status_eq_ok_iff]
  cases path.isUsable with
  | false => simp
  | true =>
      cases found : disk.status path with
      | error cause => simp
      | ok standing =>
          obtain ⟨place, entry⟩ := standing
          cases entry <;> simp

/-- A directory stands at a path if the path leads to it. -/
theorem isDirectory_iff
    {disk : Disk}
    {path : Path} :
    disk.isDirectory path = true ↔
      path.isUsable = true ∧
      ∃ place,
        disk.locate path = .ok place ∧
        disk.entry? place = some .directory := by
  unfold isDirectory
  simp only [← status_eq_ok_iff]
  cases path.isUsable with
  | false => simp
  | true =>
      cases found : disk.status path with
      | error cause => simp
      | ok standing =>
          obtain ⟨place, entry⟩ := standing
          cases entry <;> simp

/-- What is found at a path is a file if it is no directory. -/
theorem exists_fileAt?_of_holds
    {disk : Disk}
    {path : Path}
    (isThere : disk.holds path = .ok true)
    (noDirectory : disk.isDirectory path = false) :
    ∃ content, disk.fileAt? path = some content := by
  unfold holds at isThere
  unfold isDirectory at noDirectory
  split at isThere
  · rename_i usable
    cases found : disk.status path with
    | error cause =>
        rw [found] at isThere
        cases cause <;> cases isThere
    | ok standing =>
        obtain ⟨place, entry⟩ := standing
        cases entry with
        | file content => exact ⟨content, by simp [fileAt?, usable, found]⟩
        | directory => simp [usable, found] at noDirectory
  · cases isThere

/-! ## Places of names in one directory -/

/-- A name leads to its place below that of its directory. -/
theorem locate_child_eq_ok_iff
    (disk : Disk)
    (directory : Path)
    {name : String}
    (plain : name ≠ "..")
    (place : Place) :
    disk.locate (directory.child name) = .ok place ↔
      ¬ pathLimit < (directory.child name).toText.utf8ByteSize ∧
      ¬ nameLimit < name.utf8ByteSize ∧
      ∃ above,
        directory.parts.foldlM disk.enter [] = .ok above ∧
        place = above ++ [name] := by
  have isLast : (directory.child name).parts.getLast? = some name := by
    simp [Path.child]
  have others : (directory.child name).parts.dropLast = directory.parts := by
    simp [Path.child]
  unfold locate
  by_cases long : pathLimit < (directory.child name).toText.utf8ByteSize
  · simp [long]
  · rw [if_neg long]
    simp only [isLast, others, long, not_false_eq_true, true_and]
    cases entered : directory.parts.foldlM disk.enter [] with
    | error cause => simp [Bind.bind, Except.bind]
    | ok above =>
        by_cases longName : nameLimit < name.utf8ByteSize
        · simp [Bind.bind, Except.bind, plain, longName]
        · simp [Bind.bind, Except.bind, plain, longName, eq_comm]

/-- Different names of one directory lead to different places. -/
theorem locate_ne_of_child_ne
    {disk : Disk}
    {directory : Path}
    {first second : String}
    (firstPlain : first ≠ "..")
    (secondPlain : second ≠ "..")
    (different : first ≠ second)
    {place : Place}
    (located : disk.locate (directory.child first) = .ok place) :
    disk.locate (directory.child second) ≠ .ok place := by
  intro alsoLocated
  obtain ⟨_, _, above, entered, isPlace⟩ :=
    (disk.locate_child_eq_ok_iff directory firstPlain place).mp located
  obtain ⟨_, _, otherAbove, otherEntered, isOtherPlace⟩ :=
    (disk.locate_child_eq_ok_iff directory secondPlain place).mp alsoLocated
  have sameAbove : above = otherAbove :=
    Except.ok.inj (entered.symm.trans otherEntered)
  subst sameAbove
  exact different <| List.singleton_inj.mp <|
    List.append_cancel_left (isPlace.symm.trans isOtherPlace)

/-- Who can enter every directory can follow every path. -/
theorem foldlM_enter_of_enter
    {before after : Disk}
    (enters :
      ∀ {origin entered part},
        before.enter origin part = .ok entered →
        after.enter origin part = .ok entered)
    {parts : List String}
    {origin entered : Place}
    (isEntered : parts.foldlM before.enter origin = .ok entered) :
    parts.foldlM after.enter origin = .ok entered := by
  induction parts generalizing origin with
  | nil => exact isEntered
  | cons part rest inductionHypothesis =>
      simp only [List.foldlM_cons, Bind.bind, Except.bind] at isEntered ⊢
      cases first : before.enter origin part with
      | error cause =>
          rw [first] at isEntered
          cases isEntered
      | ok next =>
          rw [first] at isEntered
          rw [enters first]
          exact inductionHypothesis isEntered

/-- Who can enter every directory gets wherever a path leads. -/
theorem locate_of_enter
    {before after : Disk}
    (enters :
      ∀ {origin entered part},
        before.enter origin part = .ok entered →
        after.enter origin part = .ok entered)
    {path : Path}
    {place : Place}
    (located : before.locate path = .ok place) :
    after.locate path = .ok place := by
  unfold locate at located ⊢
  by_cases long : pathLimit < path.toText.utf8ByteSize
  · rw [if_pos long] at located
    cases located
  · rw [if_neg long] at located ⊢
    cases isLast : path.parts.getLast? with
    | none =>
        rw [isLast] at located
        exact located
    | some last =>
        simp only [isLast, Bind.bind, Except.bind] at located ⊢
        cases above : path.parts.dropLast.foldlM before.enter [] with
        | error cause =>
            rw [above] at located
            cases located
        | ok directory =>
            rw [above] at located
            rw [foldlM_enter_of_enter enters above]
            exact located

/-- A directory can be entered by its path. -/
theorem exists_entered_of_isDirectory
    {disk : Disk}
    {path : Path}
    (isThere : disk.isDirectory path = true) :
    ∃ place, path.parts.foldlM disk.enter [] = .ok place := by
  unfold isDirectory at isThere
  cases found : disk.status path with
  | error cause => simp [found] at isThere
  | ok standing =>
      obtain ⟨place, entry⟩ := standing
      have isEntry : entry = .directory := by
        cases entry <;> simp [found] at isThere ⊢
      obtain ⟨located, stands⟩ := status_eq_ok_iff.mp found
      rw [isEntry] at stands
      rcases path with ⟨slashes, parts⟩
      by_cases noParts : parts = []
      · exact ⟨[], by rw [noParts]; rfl⟩
      · obtain ⟨above, last, rfl⟩ : ∃ above last, parts = above ++ [last] :=
          ⟨_, _, (List.dropLast_concat_getLast noParts).symm⟩
        have isLast : (above ++ [last]).getLast? = some last := by simp
        have others : (above ++ [last]).dropLast = above := by simp
        unfold locate at located
        simp only [isLast, others] at located
        split at located
        · cases located
        rw [List.foldlM_append]
        cases entered : above.foldlM disk.enter [] with
        | error cause =>
            rw [entered] at located
            cases located
        | ok directory =>
            rw [entered] at located
            have next : disk.enter directory last = .ok place := by
              unfold enter
              simp only [Bind.bind, Except.bind] at located
              grind
            exact ⟨place, by simp [Bind.bind, Except.bind, next, pure, Except.pure]⟩

/-! ## Changes of one file -/

/-- A disk where nothing changed but the file at a place: it was written, or
removed. -/
structure ChangedAt
    (before after : Disk)
    (place : Place) :
    Prop where
  elsewhere :
    ∀ other, other ≠ place → after.entry? other = before.entry? other
  noDirectoryBefore : before.entry? place ≠ some .directory
  noDirectoryAfter : after.entry? place ≠ some .directory
  directorySize : after.directorySize = before.directorySize

namespace ChangedAt

variable {before after : Disk} {place : Place}

/-- The same directories can be entered. -/
theorem enter_eq_ok_iff
    (changed : before.ChangedAt after place)
    (origin entered : Place)
    (part : String) :
    after.enter origin part = .ok entered ↔
      before.enter origin part = .ok entered := by
  unfold enter
  split
  · rfl
  · split
    · simp
    · by_cases isPlace : origin ++ [part] = place
      · have notBefore := changed.noDirectoryBefore
        have notAfter := changed.noDirectoryAfter
        rw [isPlace]
        constructor <;> intro isOk <;> split at isOk <;> simp_all
      · rw [changed.elsewhere _ isPlace]

/-- Paths still lead to their places. -/
theorem locate_eq_ok_iff
    (changed : before.ChangedAt after place)
    (path : Path)
    (reached : Place) :
    after.locate path = .ok reached ↔ before.locate path = .ok reached :=
  ⟨locate_of_enter (changed.enter_eq_ok_iff _ _ _).mp,
    locate_of_enter (changed.enter_eq_ok_iff _ _ _).mpr⟩

/-- Directories are where they were. -/
theorem isDirectory_eq
    (changed : before.ChangedAt after place)
    (path : Path) :
    after.isDirectory path = before.isDirectory path := by
  rw [Bool.eq_iff_iff, isDirectory_iff, isDirectory_iff]
  refine and_congr_right fun _ => exists_congr fun reached => ?_
  rw [changed.locate_eq_ok_iff]
  refine and_congr_right fun _ => ?_
  by_cases isPlace : reached = place
  · rw [isPlace]
    exact iff_of_false changed.noDirectoryAfter changed.noDirectoryBefore
  · rw [changed.elsewhere reached isPlace]

/-- The files at paths that lead elsewhere are as before. -/
theorem fileAt?_elsewhere
    (changed : before.ChangedAt after place)
    {path : Path}
    (elsewhere : before.locate path ≠ .ok place) :
    after.fileAt? path = before.fileAt? path := by
  have notPlace :
      ∀ {reached}, before.locate path = .ok reached → reached ≠ place := by
    rintro reached isAt rfl
    exact elsewhere isAt
  apply Option.ext
  intro content
  rw [fileAt?_eq_some_iff, fileAt?_eq_some_iff]
  simp only [changed.locate_eq_ok_iff]
  constructor
  · rintro ⟨usable, reached, isAt, stands⟩
    rw [changed.elsewhere reached (notPlace isAt)] at stands
    exact ⟨usable, reached, isAt, stands⟩
  · rintro ⟨usable, reached, isAt, stands⟩
    rw [← changed.elsewhere reached (notPlace isAt)] at stands
    exact ⟨usable, reached, isAt, stands⟩

/-- The files at all other names are as before. -/
theorem fileAt?_of_ne
    (changed : before.ChangedAt after place)
    {directory : Path}
    {target name : String}
    (targetPlain : target ≠ "..")
    (plain : name ≠ "..")
    (different : name ≠ target)
    (located : before.locate (directory.child target) = .ok place) :
    after.fileAt? (directory.child name) =
      before.fileAt? (directory.child name) := by
  exact changed.fileAt?_elsewhere
    (locate_ne_of_child_ne targetPlain plain (Ne.symm different) located)

/-- So are those of all other paths in the directory. -/
theorem fileAt?_of_isIn
    (changed : before.ChangedAt after place)
    {directory target path : Path}
    (inside : target.IsIn directory)
    (isIn : path.IsIn directory)
    (different : path ≠ target)
    (located : before.locate target = .ok place) :
    after.fileAt? path = before.fileAt? path := by
  obtain ⟨targetName, targetPlain, isTarget⟩ := inside
  obtain ⟨name, plain, isName⟩ := isIn
  have differentName : name ≠ targetName := by
    rintro rfl
    exact different (isName.trans isTarget.symm)
  rw [isTarget] at located
  rw [isName]
  exact changed.fileAt?_of_ne targetPlain plain differentName located

/-- At the path that leads to the place stands what the place holds now. -/
theorem fileAt?_self
    (changed : before.ChangedAt after place)
    {path : Path}
    (located : before.locate path = .ok place)
    (content : Bytes) :
    after.fileAt? path = some content ↔
      path.isUsable = true ∧ after.entry? place = some (.file content) := by
  rw [fileAt?_eq_some_iff]
  simp only [changed.locate_eq_ok_iff, located, Except.ok.injEq,
    exists_eq_left']

end ChangedAt

theorem lookup_filter_of_ne
    {place other : Place}
    (different : other ≠ place)
    (entries : List (Place × Entry)) :
    (entries.filter fun item => item.1 ≠ place).lookup other =
      entries.lookup other := by
  induction entries with
  | nil => rfl
  | cons item rest inductionHypothesis =>
      obtain ⟨key, entry⟩ := item
      by_cases dropped : key = place
      · have notKey : (other == key) = false := by
          simpa [dropped] using different
        rw [List.filter_cons_of_neg (by simpa using dropped),
          inductionHypothesis, List.lookup_cons, notKey]
      · rw [List.filter_cons_of_pos (by simpa using dropped),
          List.lookup_cons, List.lookup_cons, inductionHypothesis]

theorem lookup_filter_self
    (place : Place)
    (entries : List (Place × Entry)) :
    (entries.filter fun item => item.1 ≠ place).lookup place = none := by
  apply List.lookup_eq_none_iff.mpr
  intro item member
  have different : item.1 ≠ place := by
    simpa using (List.mem_filter.mp member).2
  simpa using Ne.symm different

/-- Only the root is not below anything, and it is a directory. -/
theorem ne_nil_of_not_directory
    {disk : Disk}
    {place : Place}
    (noDirectory : disk.entry? place ≠ some .directory) :
    place ≠ [] := by
  intro isRoot
  simp [isRoot, entry?] at noDirectory

theorem entry?_remove_self
    (disk : Disk)
    {place : Place}
    (below : place ≠ []) :
    Disk.entry? (disk.remove place) place = none := by
  unfold entry? remove
  rw [lookup_filter_self]
  simpa using below

/-- The removal of a file changes nothing but this file. -/
theorem remove_changedAt
    {disk : Disk}
    {place : Place}
    (noDirectory : disk.entry? place ≠ some .directory) :
    disk.ChangedAt (disk.remove place) place where
  elsewhere := by
    intro other different
    unfold entry? remove
    rw [lookup_filter_of_ne different]
  noDirectoryBefore := noDirectory
  noDirectoryAfter := by
    rw [disk.entry?_remove_self (ne_nil_of_not_directory noDirectory)]
    simp
  directorySize := rfl

theorem entry?_put_self
    (disk : Disk)
    {place : Place}
    (below : place ≠ [])
    (entry : Entry) :
    Disk.entry? (disk.put place entry) place = some entry := by
  have isLast : [(place, entry)].lookup place = some entry :=
    List.lookup_cons_self
  unfold entry? put
  rw [List.lookup_append, lookup_filter_self, isLast, Option.none_or]
  simp [below]

theorem entry?_put_of_ne
    (disk : Disk)
    {place other : Place}
    (different : other ≠ place)
    (entry : Entry) :
    Disk.entry? (disk.put place entry) other = disk.entry? other := by
  have notLast : [(place, entry)].lookup other = none := by
    rw [List.lookup_eq_none_iff]
    simpa using different
  unfold entry? put
  rw [List.lookup_append, lookup_filter_of_ne different, notLast,
    Option.or_none]

/-- To write a file changes nothing but this file. -/
theorem put_changedAt
    {disk : Disk}
    {place : Place}
    (noDirectory : disk.entry? place ≠ some .directory)
    (content : Bytes) :
    disk.ChangedAt (disk.put place (.file content)) place where
  elsewhere := fun _ different => disk.entry?_put_of_ne different _
  noDirectoryBefore := noDirectory
  noDirectoryAfter := by
    rw [disk.entry?_put_self (ne_nil_of_not_directory noDirectory)]
    simp
  directorySize := rfl

/-! ## Writing -/

theorem writable_eq_ok_iff
    {disk : Disk}
    {path : Path}
    {place : Place} :
    disk.writable path = .ok place ↔
      disk.locate path = .ok place ∧
      disk.entry? place ≠ some .directory := by
  unfold writable
  cases disk.locate path with
  | error cause => simp [Bind.bind, Except.bind]
  | ok reached =>
      simp only [Bind.bind, Except.bind, Except.ok.injEq]
      split
      · rename_i isDirectory
        simp only [reduceCtorEq, false_iff, not_and]
        rintro rfl noDirectory
        exact noDirectory isDirectory
      · rename_i noDirectory
        simp only [Except.ok.injEq, ne_eq, iff_self_and]
        rintro rfl
        exact noDirectory

/-- What was written changed the file at one place. -/
theorem changedAt_of_write
    {disk written : Disk}
    {path : Path}
    {content : Bytes}
    (isWritten : disk.write path content = .ok written) :
    ∃ place,
      disk.locate path = .ok place ∧
      disk.ChangedAt written place ∧
      written.fileAt? path = some content := by
  obtain ⟨usable, isPut⟩ := about_eq_ok_iff.mp isWritten
  cases isWritable : disk.writable path with
  | error cause =>
      rw [isWritable] at isPut
      cases isPut
  | ok place =>
      rw [isWritable] at isPut
      cases isPut
      obtain ⟨located, noDirectory⟩ := writable_eq_ok_iff.mp isWritable
      have changed := put_changedAt noDirectory content
      have stands :=
        disk.entry?_put_self (ne_nil_of_not_directory noDirectory)
          (.file content)
      exact ⟨place, located, changed,
        (changed.fileAt?_self located content).mpr ⟨usable, stands⟩⟩

/-- To write one file leaves all others of the directory. -/
theorem fileAt?_write_of_ne
    {disk written : Disk}
    {directory target path : Path}
    {content : Bytes}
    (inside : target.IsIn directory)
    (isIn : path.IsIn directory)
    (different : path ≠ target)
    (isWritten : disk.write target content = .ok written) :
    written.fileAt? path = disk.fileAt? path := by
  obtain ⟨place, located, changed, _⟩ := changedAt_of_write isWritten
  exact changed.fileAt?_of_isIn inside isIn different located

/-- So does to write at its end. -/
theorem fileAt?_append_of_ne
    {disk written : Disk}
    {directory target path : Path}
    {content : Bytes}
    (inside : target.IsIn directory)
    (isIn : path.IsIn directory)
    (different : path ≠ target)
    (isWritten : disk.append target content = .ok written) :
    written.fileAt? path = disk.fileAt? path := by
  unfold append at isWritten
  cases isRead : disk.read target with
  | error failure =>
      rw [isRead] at isWritten
      cases isWritten
  | ok earlier =>
      rw [isRead] at isWritten
      exact fileAt?_write_of_ne inside isIn different isWritten

/-! ## Copying -/

/-- To read a file is to find its bytes. -/
theorem read_eq_ok_iff
    {disk : Disk}
    {path : Path}
    {content : Bytes} :
    disk.read path = .ok content ↔ disk.fileAt? path = some content := by
  unfold read fileAt?
  rw [about_eq_ok_iff]
  cases usable : path.isUsable with
  | false => simp
  | true =>
      cases disk.status path with
      | error cause => simp [Bind.bind, Except.bind]
      | ok found =>
          obtain ⟨place, entry⟩ := found
          cases entry <;> simp [Bind.bind, Except.bind]

/-- A copy writes the bytes of its source, which stands elsewhere. -/
theorem changedAt_of_copy
    {disk copied : Disk}
    {source destination : Path}
    {sameFile : Failure}
    (isCopied : disk.copy source destination sameFile = .ok copied) :
    ∃ content place,
      disk.fileAt? source = some content ∧
      disk.locate source ≠ .ok place ∧
      disk.locate destination = .ok place ∧
      disk.ChangedAt copied place ∧
      copied.fileAt? destination = some content := by
  unfold copy at isCopied
  split at isCopied
  · cases isCopied
  split at isCopied
  · cases isCopied
  rename_i notSame
  cases isRead : disk.read source with
  | error failure =>
      rw [isRead] at isCopied
      cases isCopied
  | ok content =>
      rw [isRead] at isCopied
      have stands := read_eq_ok_iff.mp isRead
      obtain ⟨place, located, changed, written⟩ := changedAt_of_write isCopied
      refine ⟨content, place, stands, ?_, located, changed, written⟩
      intro samePlace
      obtain ⟨_, origin, fromOrigin, isFile⟩ := fileAt?_eq_some_iff.mp stands
      cases fromOrigin.symm.trans samePlace
      have isSource := status_eq_ok_iff.mpr ⟨fromOrigin, isFile⟩
      have isDestination := status_eq_ok_iff.mpr ⟨located, isFile⟩
      simp [isSame, isSource, isDestination] at notSame

/-- To copy into one file leaves all others of the directory. -/
theorem fileAt?_copy_of_ne
    {disk copied : Disk}
    {source directory target path : Path}
    {sameFile : Failure}
    (inside : target.IsIn directory)
    (isIn : path.IsIn directory)
    (different : path ≠ target)
    (isCopied : disk.copy source target sameFile = .ok copied) :
    copied.fileAt? path = disk.fileAt? path := by
  obtain ⟨_, _, _, _, located, changed, _⟩ := changedAt_of_copy isCopied
  exact changed.fileAt?_of_isIn inside isIn different located

/-- After a copy, both paths hold the same bytes. -/
theorem fileAt?_copy
    {disk copied : Disk}
    {source destination : Path}
    {sameFile : Failure}
    (isCopied : disk.copy source destination sameFile = .ok copied) :
    ∃ content,
      copied.fileAt? destination = some content ∧
      copied.fileAt? source = some content := by
  obtain ⟨content, place, stands, elsewhere, _, changed, written⟩ :=
    changedAt_of_copy isCopied
  rw [← changed.fileAt?_elsewhere elsewhere] at stands
  exact ⟨content, written, stands⟩

/-- Bytes that were written at the end of a file stand there. -/
theorem fileAt?_append
    {disk written : Disk}
    {path : Path}
    {content : Bytes}
    (isWritten : disk.append path content = .ok written) :
    ∃ before,
      disk.fileAt? path = some before ∧
      written.fileAt? path = some (before ++ content) := by
  unfold append at isWritten
  cases isRead : disk.read path with
  | error failure =>
      rw [isRead] at isWritten
      cases isWritten
  | ok before =>
      rw [isRead] at isWritten
      obtain ⟨_, _, _, stands⟩ := changedAt_of_write isWritten
      exact ⟨before, read_eq_ok_iff.mp isRead, stands⟩

/-! ## Making directories -/

/-- To make a directory is to put it where nothing stands. -/
theorem entry?_makeDirectory
    {disk made : Disk}
    {path : Path}
    (isMade : disk.makeDirectory path = .ok made)
    {place : Place}
    {entry : Entry}
    (stands : disk.entry? place = some entry) :
    made.entry? place = some entry := by
  obtain ⟨_, isPut⟩ := about_eq_ok_iff.mp isMade
  cases located : disk.locate path with
  | error cause =>
      rw [located] at isPut
      cases isPut
  | ok reached =>
      cases found : disk.entry? reached with
      | some occupant => simp [located, found, Bind.bind, Except.bind] at isPut
      | none =>
          simp only [located, found, Bind.bind, Except.bind,
            Except.ok.injEq] at isPut
          subst isPut
          have different : place ≠ reached := by
            rintro rfl
            rw [found] at stands
            cases stands
          rw [entry?_put_of_ne disk different]
          exact stands

/-- What holds whenever one of the directories above a path is made holds when
all of them are made. -/
theorem makeDirectoriesFrom_leads
    (Leads : Disk → Disk → Prop)
    (refl : ∀ disk, Leads disk disk)
    (trans :
      ∀ {first second third},
        Leads first second → Leads second third → Leads first third)
    {slashes : Nat}
    {whole : List String}
    (makes :
      ∀ {parts} {disk made : Disk},
        parts <+: whole →
        disk.makeDirectory { slashes, parts } = .ok made →
        Leads disk made)
    (depth : Nat)
    {parts : List String}
    (within : parts <+: whole)
    (disk : Disk) :
    Leads disk (makeDirectoriesFrom slashes depth parts disk).2 := by
  induction depth generalizing parts disk with
  | zero => exact refl disk
  | succ depth inductionHypothesis =>
      unfold makeDirectoriesFrom
      dsimp only
      split
      · rename_i made isMade
        exact makes within isMade
      · split
        · exact refl disk
        · have above :=
            inductionHypothesis ((List.dropLast_prefix parts).trans within)
              disk
          split
          · rename_i made failed
            rw [failed] at above
            exact above
          · rename_i below succeeded
            rw [succeeded] at above
            split
            · rename_i made isMade
              exact trans above (makes within isMade)
            · split <;> exact above
      · split <;> exact refl disk
      · exact refl disk

theorem makeDirectory_of_locate_error
    {disk : Disk}
    {path : Path}
    (usable : path.isUsable = true)
    {cause : FileCause}
    (unreached : disk.locate path = .error cause) :
    disk.makeDirectory path = .error (.file cause path.toText) := by
  unfold makeDirectory about
  rw [Path.refusal?_of_isUsable usable, unreached]
  rfl

theorem makeDirectory_of_locate
    {disk : Disk}
    {path : Path}
    (usable : path.isUsable = true)
    {place : Place}
    (located : disk.locate path = .ok place) :
    disk.makeDirectory path =
      match disk.entry? place with
      | some _ => .error (.file .occupied path.toText)
      | none => .ok (disk.put place .directory) := by
  unfold makeDirectory about
  rw [Path.refusal?_of_isUsable usable, located]
  cases found : disk.entry? place <;>
    simp only [found, Bind.bind, Except.bind] <;>
    rfl

/-- All that stands on a disk stays where directories are made. -/
theorem entry?_makeDirectories
    {disk : Disk}
    (path : Path)
    {place : Place}
    {entry : Entry}
    (stands : disk.entry? place = some entry) :
    Disk.entry? (disk.makeDirectories path).2 place = some entry := by
  refine makeDirectoriesFrom_leads
    (fun before after =>
      before.entry? place = some entry → after.entry? place = some entry)
    (fun _ => id) (fun earlier later => later ∘ earlier) ?_ _
    List.prefix_rfl disk stands
  intro parts before after _ isMade stood
  exact entry?_makeDirectory isMade stood

section Stays

variable {before after : Disk}
  (stays :
    ∀ place entry,
      before.entry? place = some entry → after.entry? place = some entry)

include stays

/-- Directories that could be entered can be entered where all that stands
stays. -/
theorem enter_of_stays
    {origin entered : Place}
    {part : String}
    (isEntered : before.enter origin part = .ok entered) :
    after.enter origin part = .ok entered := by
  unfold enter at isEntered ⊢
  by_cases isUp : part = ".."
  · rw [if_pos isUp] at isEntered ⊢
    exact isEntered
  · rw [if_neg isUp] at isEntered ⊢
    by_cases long : nameLimit < part.utf8ByteSize
    · rw [if_pos long] at isEntered
      cases isEntered
    · rw [if_neg long] at isEntered ⊢
      split at isEntered
      · rename_i isDirectory
        rw [stays _ _ isDirectory]
        exact isEntered
      · cases isEntered
      · cases isEntered

/-- A file that stands stays. -/
theorem fileAt?_of_stays
    {path : Path}
    {content : Bytes}
    (stands : before.fileAt? path = some content) :
    after.fileAt? path = some content := by
  obtain ⟨usable, place, located, isFile⟩ := fileAt?_eq_some_iff.mp stands
  exact fileAt?_eq_some_iff.mpr
    ⟨usable, place, locate_of_enter (enter_of_stays stays) located,
      stays _ _ isFile⟩

end Stays

/-- A directory that is there after it was made is one that can be used. -/
theorem isUsable_of_makeDirectories
    {disk : Disk}
    {path : Path}
    (made : (disk.makeDirectories path).1 = .ok ()) :
    path.isUsable = true := by
  cases usable : path.isUsable with
  | true => rfl
  | false =>
      obtain ⟨failure, refused, notSystem⟩ :=
        Path.refusal?_of_not_isUsable usable
      have notMade : disk.makeDirectory path = .error failure := by
        unfold makeDirectory about
        rw [refused]
      unfold makeDirectories makeDirectoriesFrom at made
      simp only [notMade] at made
      cases failure with
      | file cause text => exact (notSystem rfl).elim
      | _ => cases made

/-- Where a directory stands, nothing is made. -/
theorem makeDirectoriesFrom_of_isDirectory
    {disk : Disk}
    {slashes : Nat}
    {parts : List String}
    (stands : disk.isDirectory { slashes, parts } = true)
    (depth : Nat) :
    makeDirectoriesFrom slashes depth parts disk = (.ok (), disk) := by
  have isThere := stands
  unfold isDirectory at isThere
  rw [Bool.and_eq_true] at isThere
  obtain ⟨usable, isEntry⟩ := isThere
  have occupied :
      disk.makeDirectory { slashes, parts } =
        .error (.file .occupied (Path.toText { slashes, parts })) := by
    cases found : disk.status { slashes, parts } with
    | error cause => simp [found] at isEntry
    | ok standing =>
        obtain ⟨place, entry⟩ := standing
        obtain ⟨located, isFound⟩ := status_eq_ok_iff.mp found
        rw [makeDirectory_of_locate usable located, isFound]
  cases depth with
  | zero => rfl
  | succ depth =>
      unfold makeDirectoriesFrom
      simp [occupied, stands]

theorem makeDirectories_of_isDirectory
    {disk : Disk}
    {path : Path}
    (stands : disk.isDirectory path = true) :
    disk.makeDirectories path = (.ok (), disk) :=
  makeDirectoriesFrom_of_isDirectory stands _

end Disk

end Montage
