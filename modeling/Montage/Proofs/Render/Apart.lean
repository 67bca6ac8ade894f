import Mathlib.Data.List.Infix
import Montage.Proofs.Render.Leftovers

namespace Montage

/-!
# Files of different jobs

The name of a job's file tells the job and the file, although ids may hold
underscores, dots and digits: the extension begins at the last dot, the number
of an asset is the longest run of digits before it, and no mark before the
number ends another one. So no two jobs have a file in common.
-/

/-- What stands before a boundary and what stands after the boundary are told
apart by the text alone. -/
theorem eq_of_append_eq_of_boundary
    {isLater : Char → Bool}
    {stem otherStem tail otherTail : List Char}
    (same : stem ++ tail = otherStem ++ otherTail)
    (later : ∀ character ∈ tail, isLater character = true)
    (otherLater : ∀ character ∈ otherTail, isLater character = true)
    (boundary : ∀ character ∈ stem.getLast?, isLater character = false)
    (otherBoundary :
      ∀ character ∈ otherStem.getLast?, isLater character = false) :
    stem = otherStem ∧ tail = otherTail := by
  have found :
      ∀ {front back : List Char},
        (∀ character ∈ back, isLater character = true) →
        (∀ character ∈ front.getLast?, isLater character = false) →
        (front ++ back).reverse.takeWhile isLater = back.reverse := by
    intro front back isBack isFront
    rw [List.reverse_append,
      List.takeWhile_append_of_pos (by simpa using isBack)]
    cases reversed : front.reverse with
    | nil => simp
    | cons last earlier =>
        have isLast : front.getLast? = some last := by
          rw [← List.head?_reverse, reversed, List.head?_cons]
        simp [isFront last isLast]
  have tails := congrArg (fun text => text.reverse.takeWhile isLater) same
  rw [found later boundary, found otherLater otherBoundary,
    List.reverse_inj] at tails
  subst tails
  exact ⟨List.append_cancel_right same, rfl⟩

/-- There is no separator after the last one. -/
theorem not_mem_of_cutAtLastChar?_eq_some
    {separator : Char}
    {text before after : List Char}
    (cut : cutAtLastChar? separator text = some (before, after)) :
    separator ∉ after := by
  obtain ⟨⟨later, earlier⟩, cutReverse, same⟩ :=
    Option.map_eq_some_iff.mp cut
  cases same
  have free := not_mem_of_cutAtChar?_eq_some cutReverse
  simpa using free

/-- A text that begins with its only dot. -/
def IsDotted (text : List Char) : Prop :=
  ∃ ending, text = '.' :: ending ∧ '.' ∉ ending

/-- The extension of a path, if it has one, begins with its only dot. -/
theorem Path.isDotted_suffix
    {path : Path}
    (found : path.suffix.isEmpty = false) :
    IsDotted path.suffix.toList := by
  unfold suffix at found ⊢
  cases cut : cutAtLastChar? '.' path.name.toList with
  | none => simp [cut] at found
  | some parts =>
      obtain ⟨stem, ending⟩ := parts
      simp only [cut] at found ⊢
      split at found
      · simp at found
      · rename_i bothSides
        rw [if_neg bothSides]
        exact ⟨ending, by simp, not_mem_of_cutAtLastChar?_eq_some cut⟩

theorem MediaKind.isDotted_extension
    (kind : MediaKind) :
    IsDotted kind.extension.toList := by
  cases kind with
  | video => exact ⟨"mp4".toList, by decide, by decide⟩
  | audio => exact ⟨"mp3".toList, by decide, by decide⟩
  | image => exact ⟨"png".toList, by decide, by decide⟩
  | subtitle => exact ⟨"srt".toList, by decide, by decide⟩
  | other name =>
      have isUsual : IsDotted ".bin".toList :=
        ⟨"bin".toList, by decide, by decide⟩
      exact isUsual

/-- The extension of an asset begins with its only dot. -/
theorem isDotted_assetExtension
    {address extension : String}
    {kind : MediaKind}
    (found : assetExtension address kind = .ok extension) :
    IsDotted extension.toList := by
  unfold assetExtension at found
  cases read : addressPath address with
  | error failure =>
      rw [read] at found
      cases found
  | ok path =>
      rw [read] at found
      simp only [Bind.bind, Except.bind, Pure.pure, Except.pure,
        Except.ok.injEq] at found
      subst found
      split
      · exact kind.isDotted_extension
      · rename_i isTaken
        rw [not_or] at isTaken
        exact Path.isDotted_suffix (Bool.eq_false_iff.mpr isTaken.1)

/-- What the ends of names begin with. -/
def fileMarks : List (List Char) :=
  ["_output".toList, "_subs".toList, "_text".toList, "_asset_".toList]

theorem getLast?_of_mem_fileMarks
    {mark : List Char}
    (isMark : mark ∈ fileMarks) :
    ∃ last, mark.getLast? = some last ∧ isAsciiDigit last = false := by
  have all :
      ∀ mark ∈ fileMarks,
        (mark.getLast?.any fun last => !isAsciiDigit last) = true := by
    decide
  obtain ⟨last, isLast, noDigit⟩ :=
    (Option.any_eq_true _ _).mp (all mark isMark)
  exact ⟨last, isLast, by simpa using noDigit⟩

/-- No mark ends another one. -/
theorem eq_of_append_mark_eq
    {stem otherStem mark otherMark : List Char}
    (isMark : mark ∈ fileMarks)
    (isOther : otherMark ∈ fileMarks)
    (same : stem ++ mark = otherStem ++ otherMark) :
    stem = otherStem ∧ mark = otherMark := by
  have endsNoOther :
      ∀ mark ∈ fileMarks, ∀ other ∈ fileMarks,
        mark <:+ other → mark = other := by
    decide
  have marks : mark = otherMark := by
    have ends : mark <:+ otherStem ++ otherMark := ⟨stem, same⟩
    have otherEnds : otherMark <:+ otherStem ++ otherMark :=
      List.suffix_append otherStem otherMark
    rcases List.suffix_or_suffix_of_suffix ends otherEnds with
      within | contains
    · exact endsNoOther mark isMark otherMark isOther within
    · exact (endsNoOther otherMark isOther mark isMark contains).symm
  subst marks
  exact ⟨List.append_cancel_right same, rfl⟩

namespace FileSuffix

variable {references otherReferences : List AssetReference}
  {suffix otherSuffix : String}

/-- The end of a name is a mark, digits and an extension. -/
theorem parts
    (isSuffix : FileSuffix references suffix) :
    ∃ mark ∈ fileMarks, ∃ digits extension,
      suffix.toList = mark ++ digits ++ extension ∧
      (∀ character ∈ digits, isAsciiDigit character = true) ∧
      IsDotted extension := by
  cases isSuffix with
  | output =>
      exact ⟨"_output".toList, by decide, [], ".mp4".toList, by decide,
        by simp, "mp4".toList, by decide, by decide⟩
  | subtitles =>
      exact ⟨"_subs".toList, by decide, [], ".ass".toList, by decide,
        by simp, "ass".toList, by decide, by decide⟩
  | text =>
      exact ⟨"_text".toList, by decide, [], ".txt".toList, by decide,
        by simp, "txt".toList, by decide, by decide⟩
  | @asset _ extension number _ found =>
      refine ⟨"_asset_".toList, by decide, decimalDigits number,
        extension.toList, ?_, ?_, isDotted_assetExtension found⟩
      · simp [showNatural]
      · intro character member
        exact isAsciiDigit_of_mem_decimalDigits member

/-- A text that begins with an id and ends with a file's suffix tells both. -/
theorem eq_of_append_eq
    (isSuffix : FileSuffix references suffix)
    (isOther : FileSuffix otherReferences otherSuffix)
    {jobId otherId : String}
    (same : jobId ++ suffix = otherId ++ otherSuffix) :
    jobId = otherId ∧ suffix = otherSuffix := by
  obtain ⟨mark, isMark, digits, _, written, areDigits, ending, rfl, free⟩ :=
    isSuffix.parts
  obtain ⟨otherMark, isOtherMark, otherDigits, _, otherWritten,
    areOtherDigits, otherEnding, rfl, otherFree⟩ := isOther.parts
  have names := congrArg String.toList same
  rw [String.toList_append, String.toList_append, written,
    otherWritten] at names
  -- The last dot parts the extension from what is before it.
  have ofEnding :
      ∀ {text : List Char}, '.' ∉ text →
        ∀ character ∈ text, (character != '.') = true := by
    intro text notIn character member
    simpa using ne_of_mem_of_not_mem member notIn
  have atDot :
      jobId.toList ++ mark ++ digits ++ ['.'] =
          otherId.toList ++ otherMark ++ otherDigits ++ ['.'] ∧
        ending = otherEnding :=
    eq_of_append_eq_of_boundary (by simpa using names) (ofEnding free)
      (ofEnding otherFree) (by simp) (by simp)
  -- The digits before it are all that there are.
  have ofMark :
      ∀ {text mark : List Char}, mark ∈ fileMarks →
        ∀ character ∈ (text ++ mark).getLast?,
          isAsciiDigit character = false := by
    intro text mark member character isLast
    obtain ⟨last, endsMark, noDigit⟩ := getLast?_of_mem_fileMarks member
    rw [List.getLast?_append, endsMark, Option.some_or,
      Option.mem_some] at isLast
    rw [← isLast]
    exact noDigit
  obtain ⟨stems, sameDigits⟩ :=
    eq_of_append_eq_of_boundary (List.append_cancel_right atDot.1) areDigits
      areOtherDigits (ofMark isMark) (ofMark isOtherMark)
  obtain ⟨ids, sameMarks⟩ := eq_of_append_mark_eq isMark isOtherMark stems
  refine ⟨String.toList_injective ids, String.toList_injective ?_⟩
  rw [written, otherWritten, sameMarks, sameDigits, atDot.2]

end FileSuffix

/-- A job id does not begin with a dot. -/
theorem head?_jobId
    {jobId : String}
    (accepted : isJobId jobId = true) :
    ∃ first, jobId.toList.head? = some first ∧ first ≠ '.' := by
  simp only [isJobId, Bool.and_eq_true, Bool.not_eq_true',
    List.isEmpty_eq_false_iff, decide_eq_true_eq] at accepted
  obtain ⟨⟨⟨notEmpty, _⟩, _⟩, noDot⟩ := accepted
  have checkedFirst :
      (checkedCharacters jobId.toList).head? = jobId.toList.head? := by
    unfold checkedCharacters at notEmpty ⊢
    split
    · rename_i endsWithNewline
      simp only [endsWithNewline] at notEmpty
      cases characters : jobId.toList with
      | nil => rfl
      | cons first rest =>
          rw [characters] at notEmpty
          cases rest with
          | nil => exact (notEmpty rfl).elim
          | cons second others => rfl
    · rfl
  rw [checkedFirst] at noDot
  cases characters : jobId.toList with
  | nil => simp [checkedCharacters, characters] at notEmpty
  | cons first rest =>
      refine ⟨first, rfl, ?_⟩
      simpa [characters] using noDot

namespace Path

/-- A path is that of a plain name directly in a directory, and the name is
none that listings hide. -/
def IsVisibleIn (path directory : Path) : Prop :=
  ∃ name,
    IsPart name ∧
    name.toList.head? ≠ some '.' ∧
    path = directory.child name

theorem IsVisibleIn.isIn
    {path directory : Path}
    (visible : path.IsVisibleIn directory) :
    path.IsIn directory := by
  obtain ⟨name, _, notHidden, isChild⟩ := visible
  refine ⟨name, ?_, isChild⟩
  intro isUp
  rw [isUp] at notHidden
  exact notHidden rfl

end Path

namespace Workspace

variable {references otherReferences : List AssetReference}
  {workspace otherWorkspace : Workspace} {suffix otherSuffix : String}

theorem named_isVisibleIn
    (accepted : isJobId workspace.jobId = true)
    (isSuffix : FileSuffix references suffix) :
    (workspace.named suffix).IsVisibleIn workspace.root := by
  obtain ⟨first, isFirst, notDot⟩ := head?_jobId accepted
  refine ⟨workspace.jobId ++ suffix, isSuffix.isPart accepted, ?_,
    named_eq_child accepted isSuffix⟩
  simpa [isFirst] using notDot

/-- Names in one directory are the same only for one id and one end. -/
theorem eq_of_named_eq
    (accepted : isJobId workspace.jobId = true)
    (otherAccepted : isJobId otherWorkspace.jobId = true)
    (isSuffix : FileSuffix references suffix)
    (isOther : FileSuffix otherReferences otherSuffix)
    (sameRoot : otherWorkspace.root = workspace.root)
    (same : workspace.named suffix = otherWorkspace.named otherSuffix) :
    workspace.jobId = otherWorkspace.jobId ∧ suffix = otherSuffix := by
  rw [named_eq_child accepted isSuffix,
    named_eq_child otherAccepted isOther, sameRoot] at same
  exact isSuffix.eq_of_append_eq isOther (Path.child_injective same)

end Workspace

/--
Every path that a job reserves is a visible one directly in the directory of
the workspace. Two such paths are the same only for the same id and the same
end of the name, and to write to one leaves the file at another.
-/
theorem Submission.files_apart
    {request otherRequest : RenderRequest}
    {submission otherSubmission : Submission}
    (accepted : request.submission = .ok submission)
    (otherAccepted : otherRequest.submission = .ok otherSubmission)
    {workspace otherWorkspace : Workspace}
    (owned : workspace.jobId = submission.jobId)
    (otherOwned : otherWorkspace.jobId = otherSubmission.jobId)
    (sameRoot : otherWorkspace.root = workspace.root)
    {references otherReferences : List AssetReference}
    {suffix otherSuffix : String}
    (isSuffix : FileSuffix references suffix)
    (isOther : FileSuffix otherReferences otherSuffix) :
    let path := (workspace.reserve suffix).1
    let otherPath := (otherWorkspace.reserve otherSuffix).1
    path.IsVisibleIn workspace.root ∧
    (path = otherPath →
      submission.jobId = otherSubmission.jobId ∧ suffix = otherSuffix) ∧
    (submission.jobId ≠ otherSubmission.jobId ∨ suffix ≠ otherSuffix →
      ∀ disk written content,
        Disk.write disk path content = .ok written →
        written.fileAt? otherPath = disk.fileAt? otherPath) := by
  have isId : isJobId workspace.jobId = true := by
    rw [owned]
    exact RenderRequest.isJobId_of_submission accepted
  have isOtherId : isJobId otherWorkspace.jobId = true := by
    rw [otherOwned]
    exact RenderRequest.isJobId_of_submission otherAccepted
  have visible := Workspace.named_isVisibleIn isId isSuffix
  have otherVisible := Workspace.named_isVisibleIn isOtherId isOther
  have told :
      workspace.named suffix = otherWorkspace.named otherSuffix →
        submission.jobId = otherSubmission.jobId ∧ suffix = otherSuffix := by
    intro same
    have named :=
      Workspace.eq_of_named_eq isId isOtherId isSuffix isOther sameRoot same
    rwa [owned, otherOwned] at named
  refine ⟨visible, told, ?_⟩
  intro different disk written content isWritten
  rw [sameRoot] at otherVisible
  refine Disk.fileAt?_write_of_ne visible.isIn otherVisible.isIn ?_ isWritten
  intro same
  obtain ⟨sameId, sameSuffix⟩ := told same.symm
  rcases different with differentId | differentSuffix
  · exact differentId sameId
  · exact differentSuffix sameSuffix

/-- An id that has the marks of files in it is told from the id before them. -/
theorem files_of_marked_id_apart :
    let marked : Workspace := {
      jobId := "a_asset_0.mp4"
      root := .ofText "/tmp" }
    let plain : Workspace := { jobId := "a", root := .ofText "/tmp" }
    (marked.reserve "_output.mp4").1.toText =
        "/tmp/a_asset_0.mp4_output.mp4" ∧
      (plain.reserve "_asset_0.mp4").1.toText = "/tmp/a_asset_0.mp4" ∧
      (marked.reserve "_output.mp4").1 ≠ (plain.reserve "_asset_0.mp4").1 := by
  intro marked plain
  let markedRequest : RenderRequest :=
    { RenderRequest.silent with jobId := some "a_asset_0.mp4" }
  have accepted :
      markedRequest.submission =
        .ok { jobId := "a_asset_0.mp4", request := markedRequest } := by
    rfl
  have otherAccepted :
      RenderRequest.silent.submission =
        .ok { jobId := "a", request := .silent } := by
    rfl
  let video : AssetReference :=
    { address := "http://web.test/v.mp4", kind := .video }
  have extension : assetExtension video.address video.kind = .ok ".mp4" := by
    have found :
        (assetExtension video.address video.kind).toOption = some ".mp4" := by
      decide +kernel
    cases read : assetExtension video.address video.kind with
    | error failure =>
        rw [read] at found
        cases found
    | ok extension =>
        rw [read] at found
        rw [Option.some.inj found]
  have isAsset : FileSuffix [video] "_asset_0.mp4" := by
    have numbered : "_asset_" ++ showNatural 0 ++ ".mp4" = "_asset_0.mp4" := by
      decide +kernel
    rw [← numbered]
    exact .asset 0 List.mem_cons_self extension
  have isOutput : FileSuffix [video] "_output.mp4" := .output
  have owned : marked.jobId = "a_asset_0.mp4" := rfl
  have otherOwned : plain.jobId = "a" := rfl
  have apart :=
    Submission.files_apart accepted otherAccepted owned otherOwned rfl
      isOutput isAsset
  refine ⟨by decide +kernel, by decide +kernel, ?_⟩
  intro same
  exact absurd (apart.2.1 same).1 (by decide)

end Montage
