import Mathlib.Data.List.Basic
import Montage.Proofs.Disk.Files
import Montage.Proofs.Disk.Path
import Montage.Storage.Local

namespace Montage

/-!
# Where paths lead

No disk leads a path anywhere but to the place that can be told from the path
alone: double dots take back the part before them. Directories are made on the
way of a path only, and all of them can be made unless a file or the length of a
name is in the way.
-/

/-- One part further, as far as it can be told without the disk. -/
def Place.next
    (place : Place)
    (part : String) :
    Place :=
  if part = ".." then place.dropLast else place ++ [part]

theorem Path.plainParts_eq (path : Path) :
    path.plainParts = path.parts.foldl Place.next [] :=
  rfl

theorem Place.next_of_ne
    {part : String}
    (down : part ≠ "..")
    (place : Place) :
    place.next part = place ++ [part] :=
  if_neg down

/-- Names that go down are added to a place. -/
theorem Place.foldl_next
    {names : List String}
    (down : ∀ name ∈ names, name ≠ "..")
    (place : Place) :
    names.foldl Place.next place = place ++ names := by
  induction names generalizing place with
  | nil => simp
  | cons name rest inductionHypothesis =>
      rw [List.foldl_cons, next_of_ne (down name List.mem_cons_self),
        inductionHypothesis fun other member =>
          down other (List.mem_cons_of_mem name member)]
      simp

namespace Disk

variable {disk : Disk}

/-! ## Entering -/

theorem enter_eq_next
    {origin entered : Place}
    {part : String}
    (isEntered : disk.enter origin part = .ok entered) :
    entered = origin.next part := by
  unfold enter at isEntered
  unfold Place.next
  grind

theorem foldlM_enter_eq
    {parts : List String}
    {origin entered : Place}
    (isEntered : parts.foldlM disk.enter origin = .ok entered) :
    entered = parts.foldl Place.next origin := by
  induction parts generalizing origin with
  | nil => exact (Except.ok.inj isEntered).symm
  | cons part rest inductionHypothesis =>
      simp only [List.foldlM_cons, Bind.bind, Except.bind] at isEntered
      cases first : disk.enter origin part with
      | error cause =>
          rw [first] at isEntered
          cases isEntered
      | ok next =>
          rw [first] at isEntered
          rw [List.foldl_cons, ← enter_eq_next first]
          exact inductionHypothesis isEntered

/-- What is located lies in a directory that was entered. -/
theorem exists_entered_of_locate
    {path : Path}
    {above : List String}
    {last : String}
    (shape : path.parts = above ++ [last])
    {place : Place}
    (located : disk.locate path = .ok place) :
    ∃ directory,
      above.foldlM disk.enter [] = .ok directory ∧
      place = directory.next last := by
  have isLast : path.parts.getLast? = some last := by simp [shape]
  have others : path.parts.dropLast = above := by simp [shape]
  unfold locate at located
  split at located
  · cases located
  · rw [isLast, others] at located
    cases entered : above.foldlM disk.enter [] with
    | error cause =>
        rw [entered] at located
        cases located
    | ok directory =>
        rw [entered] at located
        refine ⟨directory, rfl, ?_⟩
        simp only [Bind.bind, Except.bind] at located
        unfold Place.next
        grind

/-- A path leads to its plain parts. -/
theorem locate_eq_plainParts
    {path : Path}
    {place : Place}
    (located : disk.locate path = .ok place) :
    place = path.plainParts := by
  rw [Path.plainParts_eq]
  rcases List.eq_nil_or_concat path.parts with isEmpty | ⟨above, last, shape⟩
  · unfold locate at located
    split at located
    · cases located
    · rw [isEmpty] at located ⊢
      exact (Except.ok.inj located).symm
  · rw [List.concat_eq_append] at shape
    obtain ⟨directory, entered, isPlace⟩ :=
      exists_entered_of_locate shape located
    rw [isPlace, foldlM_enter_eq entered, shape, List.foldl_append]
    rfl

/-- A place is a directory, and so is all above it. -/
def Stands
    (disk : Disk)
    (place : Place) :
    Prop :=
  ∀ above, above <+: place → disk.entry? above = some .directory

theorem stands_nil (disk : Disk) : disk.Stands [] := by
  intro above isAbove
  rw [List.prefix_nil.mp isAbove]
  rfl

theorem Stands.concat
    {place : Place}
    (stands : disk.Stands place)
    {name : String}
    (isDirectory : disk.entry? (place ++ [name]) = some .directory) :
    disk.Stands (place ++ [name]) := by
  intro above isAbove
  rcases List.prefix_concat_iff.mp isAbove with isAll | isBefore
  · rw [isAll]
    exact isDirectory
  · exact stands above isBefore

/-- What is entered from a directory that stands stands as well. -/
theorem Stands.enter
    {origin entered : Place}
    (stands : disk.Stands origin)
    {part : String}
    (isEntered : disk.enter origin part = .ok entered) :
    disk.Stands entered := by
  unfold Disk.enter at isEntered
  split at isEntered
  · cases isEntered
    exact fun above isAbove =>
      stands above (isAbove.trans (List.dropLast_prefix origin))
  · split at isEntered
    · cases isEntered
    · split at isEntered
      · rename_i isDirectory
        cases isEntered
        exact stands.concat isDirectory
      · cases isEntered
      · cases isEntered

theorem Stands.foldlM_enter
    {parts : List String}
    {origin entered : Place}
    (stands : disk.Stands origin)
    (isEntered : parts.foldlM disk.enter origin = .ok entered) :
    disk.Stands entered := by
  induction parts generalizing origin with
  | nil =>
      cases isEntered
      exact stands
  | cons part rest inductionHypothesis =>
      simp only [List.foldlM_cons, Bind.bind, Except.bind] at isEntered
      cases first : disk.enter origin part with
      | error cause =>
          rw [first] at isEntered
          cases isEntered
      | ok next =>
          rw [first] at isEntered
          exact inductionHypothesis (stands.enter first) isEntered

/-- Paths to different places are not those of one file. -/
theorem isSame_eq_false
    {first second : Path}
    (apart : first.plainParts ≠ second.plainParts) :
    disk.isSame first second = false := by
  unfold isSame
  cases one : disk.status first with
  | error cause => rfl
  | ok standing =>
      cases other : disk.status second with
      | error cause => rfl
      | ok otherStanding =>
          have isFirst := locate_eq_plainParts (status_eq_ok_iff.mp one).1
          have isSecond := locate_eq_plainParts (status_eq_ok_iff.mp other).1
          simpa [isFirst, isSecond] using apart

/-- A copy succeeds if its source is a file, and its destination can be
written. -/
theorem exists_copy_eq_ok_iff
    {source destination : Path}
    (apart : source.plainParts ≠ destination.plainParts)
    (sameFile : Failure) :
    (∃ copied, disk.copy source destination sameFile = .ok copied) ↔
      (disk.fileAt? source).isSome = true ∧
      destination.isUsable = true ∧
      (disk.writable destination).isOk = true := by
  constructor
  · rintro ⟨copied, isCopied⟩
    obtain ⟨content, place, stands, _, located, changed, written⟩ :=
      changedAt_of_copy isCopied
    obtain ⟨usable, _⟩ := fileAt?_eq_some_iff.mp written
    have isWritable :=
      writable_eq_ok_iff.mpr ⟨located, changed.noDirectoryBefore⟩
    exact ⟨by rw [stands]; rfl, usable, by rw [isWritable]; rfl⟩
  · rintro ⟨isThere, usable, canWrite⟩
    obtain ⟨content, stands⟩ := Option.isSome_iff_exists.mp isThere
    obtain ⟨usableSource, _⟩ := fileAt?_eq_some_iff.mp stands
    cases isWritable : disk.writable destination with
    | error cause =>
        rw [isWritable] at canWrite
        cases canWrite
    | ok place =>
        refine ⟨disk.put place (.file content), ?_⟩
        unfold copy
        rw [Path.refusal?_of_isUsable usableSource,
          Path.refusal?_of_isUsable usable]
        simp only [Option.orElse_eq_orElse, Option.orElse_eq_or, Option.or_self]
        rw [isSame_eq_false apart, read_eq_ok_iff.mpr stands]
        exact about_eq_ok_iff.mpr ⟨usable, by rw [isWritable]; rfl⟩

theorem holds_of_locate
    {path : Path}
    (usable : path.isUsable = true)
    {place : Place}
    (located : disk.locate path = .ok place) :
    disk.holds path = .ok (disk.entry? place).isSome := by
  unfold holds status
  rw [if_pos usable, located]
  simp only [Bind.bind, Except.bind]
  cases disk.entry? place <;> rfl

/-- What is gone through is a directory. -/
theorem entry?_above_of_foldlM_enter
    {above more : List String}
    {reached : Place}
    (entered : (above ++ more).foldlM disk.enter [] = .ok reached) :
    disk.entry? (above.foldl Place.next []) = some .directory := by
  rw [List.foldlM_append] at entered
  cases isEntered : above.foldlM disk.enter [] with
  | error cause =>
      rw [isEntered] at entered
      cases entered
  | ok place =>
      rw [← foldlM_enter_eq isEntered]
      exact disk.stands_nil.foldlM_enter isEntered place List.prefix_rfl

theorem entry?_above_of_locate
    {path : Path}
    {above more : List String}
    (shape : path.parts = above ++ more)
    (isProper : more ≠ [])
    {place : Place}
    (located : disk.locate path = .ok place) :
    disk.entry? (above.foldl Place.next []) = some .directory := by
  have split :
      path.parts = (above ++ more.dropLast) ++ [more.getLast isProper] := by
    rw [shape, List.append_assoc, List.dropLast_append_getLast]
  obtain ⟨directory, entered, _⟩ := exists_entered_of_locate split located
  exact entry?_above_of_foldlM_enter entered

/-! ## Disks that agree on the way -/

section Agreement

/-- Two disks have the same entries wherever some parts go from a place. -/
def AgreeAlong
    (first second : Disk)
    (origin : Place)
    (parts : List String) :
    Prop :=
  ∀ above,
    above <+: parts →
    first.entry? (above.foldl Place.next origin) =
      second.entry? (above.foldl Place.next origin)

variable {first second : Disk} {path : Path}

theorem AgreeAlong.last
    (same : first.AgreeAlong second [] path.parts) :
    first.entry? path.plainParts = second.entry? path.plainParts :=
  same path.parts List.prefix_rfl

theorem enter_congr
    {origin : Place}
    {part : String}
    (same :
      first.entry? (origin.next part) = second.entry? (origin.next part)) :
    first.enter origin part = second.enter origin part := by
  unfold enter
  split
  · rfl
  · rename_i down
    rw [Place.next_of_ne down] at same
    rw [same]

theorem foldlM_enter_congr
    {parts : List String}
    {origin : Place}
    (same : first.AgreeAlong second origin parts) :
    parts.foldlM first.enter origin = parts.foldlM second.enter origin := by
  induction parts generalizing origin with
  | nil => rfl
  | cons part rest inductionHypothesis =>
      have entered : first.enter origin part = second.enter origin part :=
        enter_congr (same [part] (by simp))
      simp only [List.foldlM_cons, Bind.bind, Except.bind, entered]
      cases isNext : second.enter origin part with
      | error cause => rfl
      | ok next =>
          rw [enter_eq_next isNext]
          exact inductionHypothesis fun above isAbove =>
            same (part :: above) (by simpa using isAbove)

/-- A path leads to one place on disks that agree on what it goes through. -/
theorem locate_congr
    (same : first.AgreeAlong second [] path.parts) :
    first.locate path = second.locate path := by
  have entered :
      path.parts.dropLast.foldlM first.enter [] =
        path.parts.dropLast.foldlM second.enter [] :=
    foldlM_enter_congr fun above isAbove =>
      same above (isAbove.trans (List.dropLast_prefix path.parts))
  unfold locate
  rw [entered]

theorem status_congr
    (same : first.AgreeAlong second [] path.parts) :
    first.status path = second.status path := by
  unfold status
  rw [locate_congr same]
  cases located : second.locate path with
  | error cause => rfl
  | ok place =>
      have entry := same.last
      rw [← locate_eq_plainParts located] at entry
      simp only [Bind.bind, Except.bind, entry]

theorem fileAt?_congr
    (same : first.AgreeAlong second [] path.parts) :
    first.fileAt? path = second.fileAt? path := by
  unfold fileAt?
  rw [status_congr same]

theorem writable_congr
    (same : first.AgreeAlong second [] path.parts) :
    first.writable path = second.writable path := by
  unfold writable
  rw [locate_congr same]
  cases located : second.locate path with
  | error cause => rfl
  | ok place =>
      have entry := same.last
      rw [← locate_eq_plainParts located] at entry
      simp only [Bind.bind, Except.bind, entry]

end Agreement

/-! ## Making directories -/

/-- Directories were made on the way of a path, where nothing stood, and nothing
else happened. -/
def Gains
    (parts : List String)
    (before after : Disk) :
    Prop :=
  ∀ place,
    after.entry? place = before.entry? place ∨
    (before.entry? place = none ∧
      after.entry? place = some .directory ∧
      ∃ above, above <+: parts ∧ place = above.foldl Place.next [])

namespace Gains

variable {parts : List String} {before after : Disk}

theorem refl
    (parts : List String)
    (disk : Disk) :
    Gains parts disk disk :=
  fun _ => .inl rfl

theorem trans
    {second third : Disk}
    (earlier : Gains parts before second)
    (later : Gains parts second third) :
    Gains parts before third := by
  intro place
  rcases later place with same | ⟨absent, isMade, onTheWay⟩
  · rw [same]
    exact earlier place
  · rcases earlier place with sameBefore | ⟨_, wasMade, _⟩
    · exact .inr ⟨sameBefore.symm.trans absent, isMade, onTheWay⟩
    · rw [absent] at wasMade
      cases wasMade

/-- What stands stays. -/
theorem stays
    (gains : Gains parts before after)
    (place : Place)
    (entry : Entry)
    (stands : before.entry? place = some entry) :
    after.entry? place = some entry := by
  rcases gains place with same | ⟨absent, _⟩
  · exact same.trans stands
  · rw [absent] at stands
    cases stands

/-- No file is new. -/
theorem file_iff
    (gains : Gains parts before after)
    (place : Place)
    (content : Bytes) :
    after.entry? place = some (.file content) ↔
      before.entry? place = some (.file content) := by
  refine ⟨fun isFile => ?_, gains.stays place _⟩
  rcases gains place with same | ⟨_, isDirectory, _⟩
  · exact same.symm.trans isFile
  · rw [isFile] at isDirectory
    cases isDirectory

end Gains

theorem gains_of_makeDirectory
    {slashes : Nat}
    {parts whole : List String}
    {made : Disk}
    (within : parts <+: whole)
    (isMade : disk.makeDirectory { slashes, parts } = .ok made) :
    Gains whole disk made := by
  obtain ⟨_, isPut⟩ := about_eq_ok_iff.mp isMade
  cases located : disk.locate { slashes, parts } with
  | error cause =>
      rw [located] at isPut
      cases isPut
  | ok reached =>
      cases found : disk.entry? reached with
      | some occupant => simp [located, found, Bind.bind, Except.bind] at isPut
      | none =>
          simp only [located, found, Bind.bind, Except.bind,
            Except.ok.injEq] at isPut
          subst isPut
          have below : reached ≠ [] := by
            rintro rfl
            cases found
          intro place
          by_cases isReached : place = reached
          · rw [isReached]
            exact .inr ⟨found, disk.entry?_put_self below _, parts, within,
              locate_eq_plainParts located⟩
          · exact .inl (entry?_put_of_ne disk isReached _)

theorem gains_of_makeDirectoriesFrom
    (slashes depth : Nat)
    (parts : List String)
    (disk : Disk) :
    Gains parts disk (makeDirectoriesFrom slashes depth parts disk).2 :=
  makeDirectoriesFrom_leads (Gains parts) (Gains.refl parts) Gains.trans
    gains_of_makeDirectory depth List.prefix_rfl disk

theorem gains_of_makeDirectories
    (disk : Disk)
    (path : Path) :
    Gains path.parts disk (disk.makeDirectories path).2 :=
  gains_of_makeDirectoriesFrom _ _ _ disk

/-! ## Directories that can be made -/

/-- A short path that can be followed to its end leads there. -/
theorem locate_of_foldlM_enter
    {path : Path}
    (short : path.toText.utf8ByteSize ≤ pathLimit)
    {place : Place}
    (entered : path.parts.foldlM disk.enter [] = .ok place) :
    disk.locate path = .ok place := by
  unfold locate
  rw [if_neg (Nat.not_lt.mpr short)]
  rcases List.eq_nil_or_concat path.parts with isEmpty | ⟨above, last, shape⟩
  · rw [isEmpty] at entered ⊢
    exact entered
  · rw [List.concat_eq_append] at shape
    have isLast : path.parts.getLast? = some last := by simp [shape]
    have others : path.parts.dropLast = above := by simp [shape]
    rw [isLast, others]
    rw [shape, List.foldlM_append] at entered
    cases first : above.foldlM disk.enter [] with
    | error cause =>
        rw [first] at entered
        cases entered
    | ok directory =>
        have isNext : disk.enter directory last = .ok place := by
          rw [first] at entered
          cases next : disk.enter directory last with
          | error cause => simp [next, Bind.bind, Except.bind] at entered
          | ok reached =>
              simpa [next, Bind.bind, Except.bind, pure, Except.pure] using
                entered
        simp only [Bind.bind, Except.bind]
        unfold enter at isNext
        split at isNext
        · rename_i isUp
          rwa [if_pos isUp]
        · rename_i down
          rw [if_neg down]
          split at isNext
          · cases isNext
          · rename_i isShort
            rw [if_neg isShort]
            split at isNext
            · exact isNext
            · cases isNext
            · cases isNext

/-- A name in a directory that is entered is reached unless it is too long. -/
theorem locate_child_of_foldlM_enter
    {directory : Path}
    {name : String}
    (down : name ≠ "..")
    {above : Place}
    (entered : directory.parts.foldlM disk.enter [] = .ok above) :
    disk.locate (directory.child name) = .ok (above ++ [name]) ∨
    disk.locate (directory.child name) = .error .nameTooLong := by
  have isLast : (directory.child name).parts.getLast? = some name := by
    simp [Path.child]
  have others : (directory.child name).parts.dropLast = directory.parts := by
    simp [Path.child]
  unfold locate
  simp only [isLast, others, entered, Bind.bind, Except.bind, if_neg down]
  split
  · exact .inr rfl
  · split
    · exact .inr rfl
    · exact .inl rfl

theorem isDirectory_of_foldlM_enter
    {path : Path}
    (usable : path.isUsable = true)
    (short : path.toText.utf8ByteSize ≤ pathLimit)
    {place : Place}
    (entered : path.parts.foldlM disk.enter [] = .ok place) :
    disk.isDirectory path = true := by
  have stands := disk.stands_nil.foldlM_enter entered place List.prefix_rfl
  have status :=
    status_eq_ok_iff.mpr ⟨locate_of_foldlM_enter short entered, stands⟩
  simp [isDirectory, usable, status]

/-- Names of directories are entered. -/
theorem foldlM_enter_of_stands
    {origin : Place}
    {names : List String}
    (down : ∀ name ∈ names, name ≠ "..")
    (short : ∀ name ∈ names, name.utf8ByteSize ≤ nameLimit)
    (stands : disk.Stands (origin ++ names)) :
    names.foldlM disk.enter origin = .ok (origin ++ names) := by
  induction names generalizing origin with
  | nil =>
      rw [List.append_nil]
      rfl
  | cons name rest inductionHypothesis =>
      have isDirectory : disk.entry? (origin ++ [name]) = some .directory :=
        stands _ (by simp)
      have entered : disk.enter origin name = .ok (origin ++ [name]) := by
        unfold enter
        rw [if_neg (down name List.mem_cons_self),
          if_neg (Nat.not_lt.mpr (short name List.mem_cons_self)), isDirectory]
      have shape : origin ++ name :: rest = origin ++ [name] ++ rest := by
        simp
      rw [shape] at stands ⊢
      have later :=
        inductionHypothesis
          (fun other member => down other (List.mem_cons_of_mem name member))
          (fun other member => short other (List.mem_cons_of_mem name member))
          stands
      simpa only [List.foldlM_cons, Bind.bind, Except.bind, entered] using later

/-- Names that are entered are short. -/
theorem short_of_foldlM_enter
    {origin entered : Place}
    {names : List String}
    (down : ∀ name ∈ names, name ≠ "..")
    (isEntered : names.foldlM disk.enter origin = .ok entered) :
    ∀ name ∈ names, name.utf8ByteSize ≤ nameLimit := by
  induction names generalizing origin with
  | nil => simp
  | cons name rest inductionHypothesis =>
      simp only [List.foldlM_cons, Bind.bind, Except.bind] at isEntered
      cases first : disk.enter origin name with
      | error cause =>
          rw [first] at isEntered
          cases isEntered
      | ok next =>
          rw [first] at isEntered
          have isShort : name.utf8ByteSize ≤ nameLimit := by
            unfold enter at first
            rw [if_neg (down name List.mem_cons_self)] at first
            by_contra long
            rw [if_pos (Nat.not_le.mp long)] at first
            cases first
          intro other member
          rcases List.mem_cons.mp member with rfl | isLater
          · exact isShort
          · exact
              inductionHypothesis
                (fun later inRest => down later (List.mem_cons_of_mem _ inRest))
                isEntered other isLater

/-- Directories can be made along some names below a place: each goes down and
is short, and no file is in the way. -/
structure IsClear
    (disk : Disk)
    (origin : Place)
    (names : List String) :
    Prop where
  down : ∀ name ∈ names, name ≠ ".."
  short : ∀ name ∈ names, name.utf8ByteSize ≤ nameLimit
  free :
    ∀ above content,
      above <+: names →
      disk.entry? (origin ++ above) ≠ some (.file content)

namespace IsClear

variable {origin : Place} {names above : List String} {name : String}

theorem of_prefix
    (clear : disk.IsClear origin names)
    (isAbove : above <+: names) :
    disk.IsClear origin above where
  down := fun name member => clear.down name (isAbove.subset member)
  short := fun name member => clear.short name (isAbove.subset member)
  free := fun further content isFurther =>
    clear.free further content (isFurther.trans isAbove)

theorem of_gains
    {parts : List String}
    {after : Disk}
    (clear : disk.IsClear origin names)
    (gains : Gains parts disk after) :
    after.IsClear origin names where
  down := clear.down
  short := clear.short
  free := fun above content isAbove isFile =>
    clear.free above content isAbove ((gains.file_iff _ content).mp isFile)

/-- Such names are entered to the end, or something is missing. -/
theorem foldlM_enter_cases
    (clear : disk.IsClear origin names) :
    names.foldlM disk.enter origin = .ok (origin ++ names) ∨
    names.foldlM disk.enter origin = .error .missing := by
  induction names generalizing origin with
  | nil => exact .inl (by rw [List.append_nil]; rfl)
  | cons name rest inductionHypothesis =>
      have down := clear.down name List.mem_cons_self
      have isShort := Nat.not_lt.mpr (clear.short name List.mem_cons_self)
      simp only [List.foldlM_cons, Bind.bind, Except.bind]
      cases found : disk.entry? (origin ++ [name]) with
      | none =>
          have missing : disk.enter origin name = .error .missing := by
            simp [enter, down, isShort, found]
          rw [missing]
          exact .inr rfl
      | some entry =>
          cases entry with
          | file content =>
              exact (clear.free [name] content (by simp) found).elim
          | directory =>
              have entered : disk.enter origin name = .ok (origin ++ [name]) := by
                simp [enter, down, isShort, found]
              have further : disk.IsClear (origin ++ [name]) rest := {
                down := fun other member =>
                  clear.down other (List.mem_cons_of_mem name member)
                short := fun other member =>
                  clear.short other (List.mem_cons_of_mem name member)
                free := by
                  intro above content isAbove
                  rw [List.append_assoc]
                  exact clear.free _ content (by simpa using isAbove) }
              have later := inductionHypothesis further
              rw [List.append_assoc, List.singleton_append] at later
              rw [entered]
              exact later

/-- All names but the last are directories; the last is one, or can be made
one. -/
theorem makeDirectory_cases
    (clear : disk.IsClear origin (names ++ [name]))
    {path : Path}
    (usable : path.isUsable = true)
    (located : disk.locate path = .ok (origin ++ names ++ [name]))
    (stands : disk.Stands (origin ++ names)) :
    disk.makeDirectory path = .error (.file .occupied path.toText) ∧
      disk.isDirectory path = true ∧
      disk.Stands (origin ++ names ++ [name]) ∨
    ∃ made,
      disk.makeDirectory path = .ok made ∧
      made.Stands (origin ++ names ++ [name]) := by
  have isMade := makeDirectory_of_locate usable located
  cases found : disk.entry? (origin ++ names ++ [name]) with
  | some entry =>
      cases entry with
      | file content =>
          rw [List.append_assoc] at found
          exact (clear.free _ content List.prefix_rfl found).elim
      | directory =>
          rw [found] at isMade
          have status := status_eq_ok_iff.mpr ⟨located, found⟩
          exact .inl ⟨isMade, by simp [isDirectory, usable, status],
            stands.concat found⟩
  | none =>
      rw [found] at isMade
      refine .inr ⟨_, isMade, ?_⟩
      apply Stands.concat
      · intro above isAbove
        have different : above ≠ origin ++ names ++ [name] := by
          rintro rfl
          have longer := isAbove.length_le
          rw [List.length_append, List.length_singleton] at longer
          exact Nat.not_succ_le_self _ longer
        rw [disk.entry?_put_of_ne different]
        exact stands above isAbove
      · exact disk.entry?_put_self (by simp) _

section Base

variable {base : Path}

/-- Where the names above the last are entered, the last is reached. -/
theorem locate_eq
    (clear : disk.IsClear origin (names ++ [name]))
    (short :
      (Path.toText
        { base with
          parts := base.parts ++ (names ++ [name]) }).utf8ByteSize ≤ pathLimit)
    (rooted : base.parts.foldlM disk.enter [] = .ok origin)
    {result : Except FileCause Place}
    (entered : names.foldlM disk.enter origin = result) :
    disk.locate { base with parts := base.parts ++ (names ++ [name]) } =
      result.map (· ++ [name]) := by
  have member : name ∈ names ++ [name] := by simp
  have isLast :
      (base.parts ++ (names ++ [name])).getLast? = some name := by simp
  have others :
      (base.parts ++ (names ++ [name])).dropLast = base.parts ++ names := by
    rw [← List.append_assoc, List.dropLast_concat]
  unfold locate
  rw [if_neg (Nat.not_lt.mpr short)]
  simp only [isLast, others, List.foldlM_append, rooted, entered, Bind.bind,
    Except.bind, if_neg (clear.down name member),
    if_neg (Nat.not_lt.mpr (clear.short name member))]
  cases result <;> rfl

/-- What is missing above the last name was made; so the last can be made. -/
theorem makeDirectoriesFrom_concat
    (clear : disk.IsClear origin (names ++ [name]))
    (usable :
      Path.isUsable
        { base with parts := base.parts ++ (names ++ [name]) } = true)
    (short :
      (Path.toText
        { base with
          parts := base.parts ++ (names ++ [name]) }).utf8ByteSize ≤ pathLimit)
    (rooted : base.parts.foldlM disk.enter [] = .ok origin)
    (missing : names.foldlM disk.enter origin = .error .missing)
    {depth : Nat}
    {below : Disk}
    (isBelow :
      makeDirectoriesFrom base.slashes depth (base.parts ++ names) disk =
        (.ok (), below))
    (stands : below.Stands (origin ++ names)) :
    ∃ made,
      makeDirectoriesFrom base.slashes (depth + 1)
          (base.parts ++ (names ++ [name])) disk =
        (.ok (), made) ∧
      made.Stands (origin ++ names ++ [name]) := by
  have notMade :=
    makeDirectory_of_locate_error usable (clear.locate_eq short rooted missing)
  have gains : Gains (base.parts ++ names) disk below := by
    have allGains :=
      gains_of_makeDirectoriesFrom base.slashes depth (base.parts ++ names) disk
    rwa [isBelow] at allGains
  have clearBelow := clear.of_gains gains
  have clearAbove := clearBelow.of_prefix (List.prefix_append names [name])
  have rootedBelow :=
    foldlM_enter_of_enter (enter_of_stays gains.stays) rooted
  have located :=
    clearBelow.locate_eq short rootedBelow
      (foldlM_enter_of_stands clearAbove.down clearAbove.short stands)
  have notEmpty : (base.parts ++ (names ++ [name])).isEmpty = false := by
    simp
  have others :
      (base.parts ++ (names ++ [name])).dropLast = base.parts ++ names := by
    rw [← List.append_assoc, List.dropLast_concat]
  unfold makeDirectoriesFrom
  simp only [notMade, notEmpty, others, isBelow]
  rcases clearBelow.makeDirectory_cases usable located stands with
    ⟨isThere, isDirectory, allStand⟩ | ⟨made, isMade, allStand⟩
  · exact ⟨below, by simp [isThere, isDirectory], allStand⟩
  · exact ⟨made, by simp [isMade], allStand⟩

/-- Directories can be made along clear names. -/
theorem makeDirectoriesFrom_eq
    (clear : disk.IsClear origin names)
    (usable : Path.isUsable { base with parts := base.parts ++ names } = true)
    (short :
      ∀ above,
        above <+: names →
        (Path.toText
          { base with parts := base.parts ++ above }).utf8ByteSize ≤ pathLimit)
    (rooted : base.parts.foldlM disk.enter [] = .ok origin)
    {depth : Nat}
    (deep : names.length < depth) :
    ∃ made,
      makeDirectoriesFrom base.slashes depth (base.parts ++ names) disk =
        (.ok (), made) ∧
      made.Stands (origin ++ names) := by
  have originStands : disk.Stands origin :=
    disk.stands_nil.foldlM_enter rooted
  induction depth generalizing names with
  | zero => exact (Nat.not_lt_zero _ deep).elim
  | succ depth inductionHypothesis =>
      rcases List.eq_nil_or_concat names with rfl | ⟨above, name, rfl⟩
      · have isThere :=
          isDirectory_of_foldlM_enter usable (short [] List.prefix_rfl)
            (by rwa [List.append_nil])
        exact ⟨disk, makeDirectoriesFrom_of_isDirectory isThere _,
          by rwa [List.append_nil]⟩
      · rw [List.concat_eq_append] at *
        rw [← List.append_assoc origin]
        have isAbove : above <+: above ++ [name] := List.prefix_append _ _
        have shortAll := short _ List.prefix_rfl
        rcases (clear.of_prefix isAbove).foldlM_enter_cases with entered | missing
        · -- All but the last are there.
          have located := clear.locate_eq shortAll rooted entered
          have stands := originStands.foldlM_enter entered
          rcases clear.makeDirectory_cases usable located stands with
            ⟨_, isThere, allStand⟩ | ⟨made, isMade, allStand⟩
          · exact
              ⟨disk, makeDirectoriesFrom_of_isDirectory isThere _, allStand⟩
          · refine ⟨made, ?_, allStand⟩
            unfold makeDirectoriesFrom
            simp only [isMade]
        · -- They are made first, and then the last.
          have usableAbove :
              Path.isUsable { base with parts := base.parts ++ above } =
                true := by
            rw [Path.isUsable, ← List.append_assoc, List.all_append,
              Bool.and_eq_true] at usable
            exact usable.1
          obtain ⟨below, isBelow, stands⟩ :=
            inductionHypothesis (clear.of_prefix isAbove) usableAbove
              (fun further isFurther => short further (isFurther.trans isAbove))
              (by simpa using deep)
          exact clear.makeDirectoriesFrom_concat usable shortAll rooted missing
            isBelow stands

end Base

theorem makeDirectories_eq
    (base : Path)
    (clear : disk.IsClear origin names)
    (usable : Path.isUsable { base with parts := base.parts ++ names } = true)
    (short :
      ∀ above,
        above <+: names →
        (Path.toText
          { base with parts := base.parts ++ above }).utf8ByteSize ≤ pathLimit)
    (rooted : base.parts.foldlM disk.enter [] = .ok origin) :
    ∃ made,
      disk.makeDirectories { base with parts := base.parts ++ names } =
        (.ok (), made) ∧
      made.Stands (origin ++ names) :=
  clear.makeDirectoriesFrom_eq usable short rooted <| by
    rw [List.length_append]
    omega

end IsClear

theorem isDirectory_of_makeDirectory
    {path : Path}
    {made : Disk}
    (isMade : disk.makeDirectory path = .ok made) :
    made.isDirectory path = true := by
  obtain ⟨usable, isPut⟩ := about_eq_ok_iff.mp isMade
  cases located : disk.locate path with
  | error cause =>
      rw [located] at isPut
      cases isPut
  | ok reached =>
      cases found : disk.entry? reached with
      | some occupant => simp [located, found, Bind.bind, Except.bind] at isPut
      | none =>
          simp only [located, found, Bind.bind, Except.bind,
            Except.ok.injEq] at isPut
          have below : reached ≠ [] := by
            rintro rfl
            cases found
          have stillLocated :=
            locate_of_enter
              (enter_of_stays fun _ _ => entry?_makeDirectory isMade) located
          have stands : made.entry? reached = some .directory := by
            rw [← isPut]
            exact disk.entry?_put_self below _
          have status := status_eq_ok_iff.mpr ⟨stillLocated, stands⟩
          simp [isDirectory, usable, status]

/-- A directory that was made is there. -/
theorem isDirectory_of_makeDirectories
    {path : Path}
    {made : Disk}
    (isMade : disk.makeDirectories path = (.ok (), made)) :
    made.isDirectory path = true := by
  unfold makeDirectories makeDirectoriesFrom at isMade
  dsimp only at isMade
  split at isMade
  · rename_i first isFirst
    cases isMade
    exact isDirectory_of_makeDirectory isFirst
  · split at isMade
    · cases isMade
    · split at isMade
      · cases isMade
      · split at isMade
        · rename_i last isLast
          cases isMade
          exact isDirectory_of_makeDirectory isLast
        · split at isMade
          · rename_i isThere
            cases isMade
            exact isThere
          · cases isMade
  · split at isMade
    · rename_i isThere
      cases isMade
      exact isThere
    · cases isMade
  · cases isMade

end Disk

end Montage
