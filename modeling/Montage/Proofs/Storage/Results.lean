import Montage.Proofs.Render.Names
import Montage.Proofs.Render.Notice
import Montage.Proofs.Storage.Calls
import Montage.Proofs.Storage.Upload

namespace Montage

/-!
# Places of results

The upload of a result writes one file: that of its own name in the folder of
its project. The name tells the job, but the folder is where double dots in the
project lead: it tells the project, and is below the folder of all results, only
for a project that names its folder plainly.
-/

namespace Path

/-! ## Parts of longer texts -/

theorem partsOf_append_slash
    (before after : List Char) :
    partsOf (before ++ '/' :: after) = partsOf before ++ partsOf after := by
  simp [partsOf, splitAtChar_append]

theorem partsOf_of_isPart
    {part : String}
    (isPart : IsPart part) :
    partsOf part.toList = [part] := by
  simp [partsOf, splitAtChar_of_not_mem isPart.noSlash, isPart.notEmpty,
    isPart.notDot]

end Path

/-! ## Names of folders -/

/-- No segment of a text is dropped from a path, or goes up. -/
def IsFolderName (name : String) : Prop :=
  ∀ segment ∈ keySegments name,
    segment ≠ "" ∧ segment ≠ "." ∧ segment ≠ ".."

/-- The parts of such a name are its segments. -/
theorem IsFolderName.partsOf_eq
    {name : String}
    (isName : IsFolderName name) :
    Path.partsOf name.toList = keySegments name := by
  unfold Path.partsOf keySegments
  congr 1
  apply List.filter_eq_self.mpr
  intro piece member
  obtain ⟨notEmpty, notDot, _⟩ :=
    isName (String.ofList piece) (List.mem_map_of_mem member)
  have isPiece : String.ofList piece = "" ↔ piece = [] := by
    simp
  have isDotted : piece = ['.'] → String.ofList piece = "." := by
    rintro rfl
    rfl
  simp only [Bool.and_eq_true, Bool.not_eq_true', List.isEmpty_eq_false_iff,
    ne_eq, decide_eq_true_eq]
  exact ⟨notEmpty ∘ isPiece.mpr, notDot ∘ isDotted⟩

namespace LocalStorage

variable (storage : LocalStorage)

/-! ## Folders and names of results -/

/-- The folder of all results. -/
def finalFolder : Place :=
  storage.root.plainParts ++ ["final"]

/-- The folder of a project's results. -/
def resultFolder (projectId : Option String) : Place :=
  (storage.file ("final/" ++ projectName projectId)).plainParts

/-- The name of a job's result. -/
def resultName (jobId : String) : String :=
  "final_" ++ jobId ++ ".mp4"

/-- The place of the result of a job. -/
def resultPlace
    (projectId : Option String)
    (jobId : String) :
    Place :=
  (storage.file (resultKey projectId jobId)).plainParts

theorem resultName_injective
    {first second : String}
    (same : resultName first = resultName second) :
    first = second := by
  have characters := congrArg String.toList same
  exact String.toList_inj.mp (by simpa [resultName] using characters)

/-- A job id that is taken in makes the name of a file. -/
theorem isPart_resultName
    {jobId : String}
    (isId : isJobId jobId = true) :
    Path.IsPart (resultName jobId) := by
  have notSlash : '/' ∉ jobId.toList :=
    fun member => (isPlain_of_mem_jobId isId member).notSlash rfl
  refine ⟨?_, ?_, ?_⟩ <;> simp [resultName, notSlash]

/-- A name of a result does not go up. -/
theorem resultName_ne_up (jobId : String) : resultName jobId ≠ ".." := by
  intro isUp
  have characters := congrArg String.toList isUp
  simp [resultName] at characters

/-- What starts as a relative path continues the root. -/
theorem file_final_eq (rest : String) :
    storage.file ("final/" ++ rest) =
      { storage.root with
        parts :=
          storage.root.parts ++ "final" :: Path.partsOf rest.toList } := by
  have opening : "final/".toList = "final".toList ++ ['/'] := by
    decide
  have isRelative : (Path.ofText ("final/" ++ rest)).slashes = 0 := by
    simp [Path.ofText, Path.leadingSlashes]
  have parts :
      (Path.ofText ("final/" ++ rest)).parts =
        "final" :: Path.partsOf rest.toList := by
    have isFinal : Path.partsOf "final".toList = ["final"] := by
      decide
    simp only [Path.ofText, String.toList_append, opening, List.append_assoc,
      List.singleton_append, Path.partsOf_append_slash, isFinal]
  simp [file, Path.join, isRelative, parts]

theorem resultFolder_eq (projectId : Option String) :
    storage.resultFolder projectId =
      ("final" :: Path.partsOf (projectName projectId).toList).foldl
        Place.next storage.root.plainParts := by
  rw [resultFolder, file_final_eq, Path.plainParts_eq, List.foldl_append]
  rfl

theorem resultKey_eq
    (projectId : Option String)
    (jobId : String) :
    resultKey projectId jobId =
      "final/" ++ (projectName projectId ++ "/" ++ resultName jobId) := by
  apply String.toList_injective
  rw [toList_resultKey]
  simp [resultName]

/-- A result stands in the folder of its project, under the name of its job. -/
theorem resultPlace_eq
    (projectId : Option String)
    {jobId : String}
    (isId : isJobId jobId = true) :
    storage.resultPlace projectId jobId =
      storage.resultFolder projectId ++ [resultName jobId] := by
  have rest :
      Path.partsOf (projectName projectId ++ "/" ++ resultName jobId).toList =
        Path.partsOf (projectName projectId).toList ++ [resultName jobId] := by
    rw [← Path.partsOf_of_isPart (isPart_resultName isId)]
    simp [Path.partsOf_append_slash]
  rw [resultPlace, resultKey_eq, file_final_eq, rest, resultFolder_eq,
    Path.plainParts_eq, List.foldl_append, ← Path.plainParts_eq,
    ← List.cons_append, List.foldl_append, List.foldl_cons, List.foldl_nil,
    Place.next_of_ne (resultName_ne_up jobId)]

/-- Results stand at one place only if the jobs have one id, and the projects
one folder. -/
theorem resultPlace_eq_iff
    {projectId otherProject : Option String}
    {jobId otherJob : String}
    (isId : isJobId jobId = true)
    (isOtherId : isJobId otherJob = true) :
    storage.resultPlace projectId jobId =
        storage.resultPlace otherProject otherJob ↔
      jobId = otherJob ∧
      storage.resultFolder projectId = storage.resultFolder otherProject := by
  rw [resultPlace_eq storage _ isId, resultPlace_eq storage _ isOtherId]
  constructor
  · intro same
    obtain ⟨folder, name⟩ := List.append_inj' same rfl
    exact ⟨resultName_injective (List.singleton_inj.mp name), folder⟩
  · rintro ⟨rfl, folder⟩
    rw [folder]

/-- Double dots alone lead a project out of the folder of all results. -/
theorem resultFolder_of_isFolderName
    {projectId : Option String}
    (isName : IsFolderName (projectName projectId)) :
    storage.resultFolder projectId =
      storage.finalFolder ++ keySegments (projectName projectId) := by
  rw [resultFolder_eq, isName.partsOf_eq, List.foldl_cons,
    Place.next_of_ne (by decide),
    Place.foldl_next fun segment member => (isName segment member).2.2]
  rfl

/-- Projects that name their folders plainly have folders of their own. -/
theorem resultFolder_eq_iff
    {projectId otherProject : Option String}
    (isName : IsFolderName (projectName projectId))
    (isOtherName : IsFolderName (projectName otherProject)) :
    storage.resultFolder projectId = storage.resultFolder otherProject ↔
      projectName projectId = projectName otherProject := by
  rw [resultFolder_of_isFolderName storage isName,
    resultFolder_of_isFolderName storage isOtherName,
    List.append_cancel_left_eq]
  exact ⟨keySegments_injective, congrArg keySegments⟩

end LocalStorage

/-! ## Uploads of results -/

namespace LocalStorage

variable {storage : LocalStorage}

/-- A result that was uploaded stands below the root. -/
theorem root_above_of_receives
    {projectId : Option String}
    {jobId : String}
    {disk made : Disk}
    (prepared :
      storage.prepare disk (resultKey projectId jobId) =
        (.ok (storage.file (resultKey projectId jobId)), made))
    (located :
      made.locate (storage.file (resultKey projectId jobId)) =
        .ok (storage.resultPlace projectId jobId))
    (noDirectory :
      made.entry? (storage.resultPlace projectId jobId) ≠ some .directory) :
    storage.root.plainParts <+: storage.resultPlace projectId jobId ∧
    storage.resultPlace projectId jobId ≠ storage.root.plainParts := by
  obtain ⟨_, _, within, _⟩ := prepare_eq_ok_iff.mp prepared
  refine ⟨List.isPrefixOf_iff_prefix.mp within, ?_⟩
  intro isRoot
  apply noDirectory
  rw [isRoot, Path.plainParts_eq]
  rw [resultKey_eq, file_final_eq] at located
  exact Disk.entry?_above_of_locate rfl (by simp) located

/-- Whether results are below the folder of all results is a matter of their
folders. -/
theorem finalFolder_above_iff
    (projectId : Option String)
    {jobId : String}
    (isId : isJobId jobId = true) :
    storage.resultPlace projectId jobId ≠ storage.finalFolder ∧
    (storage.finalFolder <+: storage.resultPlace projectId jobId ↔
      storage.finalFolder <+: storage.resultFolder projectId) := by
  have different :
      storage.resultPlace projectId jobId ≠ storage.finalFolder := by
    rw [resultPlace_eq storage _ isId]
    intro same
    have names := congrArg String.toList <|
      List.singleton_inj.mp (List.append_inj' same rfl).2
    simp [resultName] at names
  refine ⟨different, ?_⟩
  rw [resultPlace_eq storage _ isId] at different ⊢
  rw [List.prefix_concat_iff]
  exact or_iff_right (Ne.symm different)

end LocalStorage

end Montage
