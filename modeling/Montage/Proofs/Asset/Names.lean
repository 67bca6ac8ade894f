import Montage.Proofs.Render.Apart

namespace Montage

/-!
# Names of assets

The files of a job's assets stand in one directory, whatever the id of the job
is, and the number of an asset is read back from the name of its file.
-/

/-- A slash before a plain name parts it from all that comes before. -/
theorem Path.partsOf_append_isPart
    {before name : List Char}
    (isParted : before = [] ∨ before.getLast? = some '/')
    (isPart : IsPart (String.ofList name)) :
    partsOf (before ++ name) = partsOf before ++ [String.ofList name] := by
  have free : '/' ∉ name := by simpa using isPart.noSlash
  have kept :
      ([name].filter fun part => !part.isEmpty && part ≠ ['.']) = [name] := by
    have notEmpty : name ≠ [] := by simpa using isPart.notEmpty
    have notDot : name ≠ ['.'] := by simpa using isPart.notDot
    simp [notEmpty, notDot]
  unfold partsOf
  rcases isParted with rfl | endsInSlash
  · rw [List.nil_append, splitAtChar_of_not_mem free, kept]
    simp [splitAtChar]
  · obtain ⟨folders, rfl⟩ := List.getLast?_eq_some_iff.mp endsInSlash
    rw [List.append_assoc, List.singleton_append, splitAtChar_append,
      splitAtChar_append, splitAtChar_of_not_mem free, List.filter_append,
      List.filter_append, kept]
    simp [splitAtChar]

/-- A plain name adds no leading slashes. -/
theorem Path.leadingSlashes_append
    {name : List Char}
    (free : '/' ∉ name)
    (before : List Char) :
    leadingSlashes (before ++ name) = leadingSlashes before := by
  have noneTaken : name.takeWhile (· == '/') = [] := by
    cases name with
    | nil => rfl
    | cons first rest =>
        rw [List.mem_cons, not_or] at free
        simp [Ne.symm free.1]
  have sameTaken :
      (before ++ name).takeWhile (· == '/') = before.takeWhile (· == '/') := by
    rw [List.takeWhile_append, noneTaken, List.append_nil]
    split
    · rename_i all
      exact ((List.takeWhile_prefix _).eq_of_length all).symm
    · rfl
  unfold leadingSlashes
  rw [sameTaken]

/-- Extensions that an address may give to its file. -/
def IsAssetExtension (address extension : String) : Prop :=
  ∃ kind, assetExtension address kind = .ok extension

/-- The end of the name of an asset's file. -/
def assetSuffix (number : Nat) (extension : String) : String :=
  "_asset_" ++ showNatural number ++ extension

section Suffixes

variable {address otherAddress extension otherExtension : String}
  {number otherNumber : Nat}

theorem IsAssetExtension.fileSuffix
    (isExtension : IsAssetExtension address extension)
    (number : Nat) :
    ∃ references, FileSuffix references (assetSuffix number extension) := by
  obtain ⟨kind, found⟩ := isExtension
  let reference : AssetReference := { address, kind }
  have isFirst : reference ∈ [reference] := List.mem_cons_self
  exact ⟨[reference], .asset number isFirst found⟩

/-- The number of an asset is the longest run of digits before the extension,
which begins with a dot. -/
theorem assetSuffix_injective
    (isExtension : IsAssetExtension address extension)
    (isOther : IsAssetExtension otherAddress otherExtension)
    (same :
      assetSuffix number extension = assetSuffix otherNumber otherExtension) :
    number = otherNumber := by
  obtain ⟨kind, found⟩ := isExtension
  obtain ⟨otherKind, otherFound⟩ := isOther
  obtain ⟨ending, isEnding, _⟩ := isDotted_assetExtension found
  obtain ⟨otherEnding, isOtherEnding, _⟩ := isDotted_assetExtension otherFound
  have texts := congrArg String.toList same
  simp only [assetSuffix, String.toList_append, showNatural,
    String.toList_ofList, isEnding, isOtherEnding, List.append_assoc] at texts
  have digits :
      ∀ (number : Nat) (ending : List Char),
        (decimalDigits number ++ '.' :: ending).takeWhile isAsciiDigit =
          decimalDigits number := by
    intro number ending
    rw [List.takeWhile_append_of_pos fun _ =>
      isAsciiDigit_of_mem_decimalDigits]
    simp [isAsciiDigit]
  have sameDigits : decimalDigits number = decimalDigits otherNumber := by
    rw [← digits number ending, List.append_cancel_left texts, digits]
  exact showNatural_injective (congrArg String.ofList sameDigits)

end Suffixes

namespace Workspace

/-- The directory of the files of a job: slashes in its id lead there. -/
def home (workspace : Workspace) : Path :=
  workspace.root.join <| String.ofList
    (workspace.jobId.toList.reverse.dropWhile (· != '/')).reverse

/-- What the names of the files of a job begin with. -/
def stem (workspace : Workspace) : String :=
  String.ofList (workspace.jobId.toList.reverse.takeWhile (· != '/')).reverse

/-- The file of an asset. -/
def assetPath
    (workspace : Workspace)
    (number : Nat)
    (extension : String) :
    Path :=
  workspace.named (assetSuffix number extension)

/-- A path is one that a job may give to the file of an asset. -/
def OwnsAsset (workspace : Workspace) (path : Path) : Prop :=
  ∃ address number extension,
    IsAssetExtension address extension ∧
    path = workspace.assetPath number extension

/-- A name of a job stands in the directory of its files. -/
theorem named_eq_home_child
    (workspace : Workspace)
    {suffix : String}
    (free : '/' ∉ suffix.toList)
    (underscore : '_' ∈ suffix.toList) :
    workspace.named suffix = workspace.home.child (workspace.stem ++ suffix) := by
  let before := (workspace.jobId.toList.reverse.dropWhile (· != '/')).reverse
  let name :=
    (workspace.jobId.toList.reverse.takeWhile (· != '/')).reverse ++
      suffix.toList
  have whole : (workspace.jobId ++ suffix).toList = before ++ name := by
    simp only [before, name, String.toList_append, ← List.append_assoc]
    rw [← List.reverse_append, List.takeWhile_append_dropWhile,
      List.reverse_reverse]
  have isParted : before = [] ∨ before.getLast? = some '/' := by
    simp only [before, List.getLast?_reverse, List.reverse_eq_nil_iff]
    cases rest : workspace.jobId.toList.reverse.dropWhile (· != '/') with
    | nil => exact Or.inl rfl
    | cons first others =>
        have stops :=
          List.head?_dropWhile_not (· != '/') workspace.jobId.toList.reverse
        rw [rest] at stops
        right
        simpa using stops
  have isName : String.ofList name = workspace.stem ++ suffix := by
    simp [name, stem]
  have nameFree : '/' ∉ name := by
    simp only [name, List.mem_append, List.mem_reverse, not_or]
    refine ⟨?_, free⟩
    intro member
    simpa using List.mem_takeWhile_imp member
  have nameUnderscore : '_' ∈ name := List.mem_append_right _ underscore
  have isPart : Path.IsPart (String.ofList name) := by
    refine ⟨?_, ?_, by simpa using nameFree⟩
    · simpa using List.ne_nil_of_mem nameUnderscore
    · intro isDot
      rw [String.toList_ofList] at isDot
      rw [isDot] at nameUnderscore
      exact absurd nameUnderscore (by decide)
  have parts := Path.partsOf_append_isPart isParted isPart
  have slashes := Path.leadingSlashes_append nameFree before
  unfold named home Path.join Path.child
  simp only [Path.ofText, whole, parts, slashes, isName,
    String.toList_ofList, before]
  split <;> simp

variable {workspace : Workspace} {address otherAddress : String}
  {number otherNumber : Nat} {extension otherExtension : String}

theorem assetPath_eq_child
    (workspace : Workspace)
    (isExtension : IsAssetExtension address extension)
    (number : Nat) :
    workspace.assetPath number extension =
      workspace.home.child (workspace.stem ++ assetSuffix number extension) := by
  obtain ⟨references, isSuffix⟩ := isExtension.fileSuffix number
  exact workspace.named_eq_home_child isSuffix.slash_not_mem
    isSuffix.underscore_mem

/-- Assets of different numbers have different files. -/
theorem assetPath_injective
    (isExtension : IsAssetExtension address extension)
    (isOther : IsAssetExtension otherAddress otherExtension)
    (same :
      workspace.assetPath number extension =
        workspace.assetPath otherNumber otherExtension) :
    number = otherNumber := by
  rw [workspace.assetPath_eq_child isExtension,
    workspace.assetPath_eq_child isOther] at same
  have names := congrArg String.toList (Path.child_injective same)
  simp only [String.toList_append] at names
  exact assetSuffix_injective isExtension isOther
    (String.toList_injective (List.append_cancel_left names))

theorem OwnsAsset.isIn
    {path : Path}
    (owns : workspace.OwnsAsset path) :
    path.IsIn workspace.home := by
  obtain ⟨address, number, extension, isExtension, rfl⟩ := owns
  obtain ⟨references, isSuffix⟩ := isExtension.fileSuffix number
  refine ⟨workspace.stem ++ assetSuffix number extension, ?_,
    workspace.assetPath_eq_child isExtension number⟩
  intro isUp
  have underscore :
      '_' ∈ (workspace.stem ++ assetSuffix number extension).toList := by
    simp [isSuffix.underscore_mem]
  rw [isUp] at underscore
  exact absurd underscore (by decide)

end Workspace

end Montage
