import Montage.Proofs.Disk.Files
import Montage.Proofs.Disk.Path
import Montage.Proofs.Number.Characters
import Montage.Proofs.Text.Writable
import Montage.Proofs.Work.Account
import Montage.Request.Render

namespace Montage

/-!
# Names of a job's files

The name of a file begins with the id of its job. It is a plain name in the
directory of the workspace, and files can have it unless the extension of an
asset forbids this.
-/

/-- A text is put together again from the parts at a cut. -/
theorem eq_of_cutAtChar?_eq_some
    {separator : Char}
    {text before after : List Char}
    (cut : cutAtChar? separator text = some (before, after)) :
    text = before ++ separator :: after := by
  induction text generalizing before with
  | nil => cases cut
  | cons character rest inductionHypothesis =>
      by_cases isSeparator : character = separator
      · simp only [cutAtChar?, isSeparator, ↓reduceIte, Option.some.injEq,
          Prod.mk.injEq] at cut
        obtain ⟨isBefore, isAfter⟩ := cut
        subst isBefore
        subst isAfter
        rw [isSeparator, List.nil_append]
      · simp only [cutAtChar?, isSeparator, ↓reduceIte,
          Option.map_eq_some_iff] at cut
        obtain ⟨⟨earlier, later⟩, cutRest, same⟩ := cut
        cases same
        rw [inductionHypothesis cutRest]
        rfl

/-- There is no separator before the first one. -/
theorem not_mem_of_cutAtChar?_eq_some
    {separator : Char}
    {text before after : List Char}
    (cut : cutAtChar? separator text = some (before, after)) :
    separator ∉ before := by
  induction text generalizing before with
  | nil => cases cut
  | cons character rest inductionHypothesis =>
      by_cases isSeparator : character = separator
      · simp only [cutAtChar?, isSeparator, ↓reduceIte, Option.some.injEq,
          Prod.mk.injEq] at cut
        rw [← cut.1]
        exact List.not_mem_nil
      · simp only [cutAtChar?, isSeparator, ↓reduceIte,
          Option.map_eq_some_iff] at cut
        obtain ⟨⟨earlier, later⟩, cutRest, same⟩ := cut
        cases same
        rw [List.mem_cons, not_or]
        exact ⟨Ne.symm isSeparator, inductionHypothesis cutRest⟩

/-- A text is cut exactly where there is a separator. -/
theorem cutAtChar?_eq_none_iff
    {separator : Char}
    {text : List Char} :
    cutAtChar? separator text = none ↔ separator ∉ text := by
  induction text with
  | nil => simp [cutAtChar?]
  | cons character rest inductionHypothesis =>
      by_cases isSeparator : character = separator
      · simp [cutAtChar?, isSeparator]
      · simp [cutAtChar?, isSeparator, inductionHypothesis,
          Ne.symm isSeparator]

theorem eq_of_cutAtLastChar?_eq_some
    {separator : Char}
    {text before after : List Char}
    (cut : cutAtLastChar? separator text = some (before, after)) :
    text = before ++ separator :: after := by
  obtain ⟨⟨later, earlier⟩, cutReverse, same⟩ :=
    Option.map_eq_some_iff.mp cut
  cases same
  have reversed := congrArg List.reverse (eq_of_cutAtChar?_eq_some cutReverse)
  simpa using reversed

namespace Path

/-- A suffix ends the last part. -/
theorem suffix_isSuffix (path : Path) :
    path.suffix.toList <:+ path.name.toList := by
  unfold suffix
  cases cut : cutAtLastChar? '.' path.name.toList with
  | none => exact List.nil_suffix
  | some parts =>
      obtain ⟨stem, ending⟩ := parts
      dsimp only
      split
      · exact List.nil_suffix
      · rw [eq_of_cutAtLastChar?_eq_some cut, String.toList_ofList]
        exact List.suffix_append stem _

/-- There is no slash in a suffix. -/
theorem Canonical.slash_not_mem_suffix
    {path : Path}
    (canonical : path.Canonical) :
    '/' ∉ path.suffix.toList := by
  intro member
  have inName := path.suffix_isSuffix.subset member
  unfold name at inName
  cases last : path.parts.getLast? with
  | none => simp [last] at inName
  | some part =>
      rw [last] at inName
      exact (canonical.parts part (List.mem_of_getLast? last)).noSlash inName

/-- File names can hold ASCII characters but the null character. -/
theorem isNameable_of_ascii
    {character : Char}
    (isAscii : character.toNat < 128)
    (notNull : character ≠ '\x00') :
    isNameable character = true := by
  have isCommon : character.toNat < 0x10E000 :=
    Nat.lt_trans isAscii (by decide)
  simp [isNameable, notNull, isBareSurrogate, isLoneSurrogate_of_lt isCommon]

end Path

/-- There is no slash in the extension of an asset. -/
theorem slash_not_mem_assetExtension
    {address extension : String}
    {kind : MediaKind}
    (found : assetExtension address kind = .ok extension) :
    '/' ∉ extension.toList := by
  unfold assetExtension at found
  cases read : addressPath address with
  | error failure =>
      rw [read] at found
      cases found
  | ok path =>
      rw [read] at found
      simp only [Bind.bind, Except.bind, Pure.pure, Except.pure,
        Except.ok.injEq] at found
      subst found
      split
      · cases kind with
        | other name =>
            have free : '/' ∉ ".bin".toList := by decide
            exact free
        | _ => decide
      · exact (Path.ofText_canonical _).slash_not_mem_suffix

/-- A character that stands in every kind of name: it is an ASCII character and
neither a slash nor the null character. -/
structure IsPlain (character : Char) : Prop where
  isAscii : character.toNat < 128
  notSlash : character ≠ '/'
  notNull : character ≠ '\x00'

namespace IsPlain

variable {character : Char}

/-- Characters between two ASCII characters after the slash are plain. -/
theorem of_between
    {low high : Char}
    (above : low ≤ character)
    (below : character ≤ high)
    (afterSlash : '/'.toNat < low.toNat)
    (isAscii : high.toNat < 128) :
    IsPlain character := by
  have atLeast : low.toNat ≤ character.toNat :=
    UInt32.le_iff_toNat_le.mp (Char.le_def.mp above)
  have atMost : character.toNat ≤ high.toNat :=
    UInt32.le_iff_toNat_le.mp (Char.le_def.mp below)
  refine ⟨Nat.lt_of_le_of_lt atMost isAscii, ?_, ?_⟩
  · intro isSlash
    rw [isSlash] at atLeast
    exact Nat.lt_irrefl _ (Nat.lt_of_lt_of_le afterSlash atLeast)
  · intro isNull
    rw [isNull] at atLeast
    exact Nat.not_lt_zero _ (Nat.lt_of_lt_of_le afterSlash atLeast)

theorem of_isAsciiDigit
    (isDigit : isAsciiDigit character = true) :
    IsPlain character := by
  simp only [isAsciiDigit, Bool.and_eq_true, decide_eq_true_eq] at isDigit
  exact of_between isDigit.1 isDigit.2 (by decide) (by decide)

theorem of_isAsciiLetter
    (isLetter : isAsciiLetter character = true) :
    IsPlain character := by
  simp only [isAsciiLetter, Bool.or_eq_true, Bool.and_eq_true,
    decide_eq_true_eq] at isLetter
  rcases isLetter with ⟨above, below⟩ | ⟨above, below⟩
  · exact of_between above below (by decide) (by decide)
  · exact of_between above below (by decide) (by decide)

theorem of_isJobIdCharacter
    (accepted : isJobIdCharacter character = true) :
    IsPlain character := by
  have marks : "_.-".toList = ['_', '.', '-'] := rfl
  simp only [isJobIdCharacter, Bool.or_eq_true, List.contains_iff_mem, marks,
    List.mem_cons, List.not_mem_nil, or_false] at accepted
  rcases accepted with (isLetter | isDigit) | isUnderscore | isDot | isHyphen
  · exact of_isAsciiLetter isLetter
  · exact of_isAsciiDigit isDigit
  · rw [isUnderscore]
    exact ⟨by decide, by decide, by decide⟩
  · rw [isDot]
    exact ⟨by decide, by decide, by decide⟩
  · rw [isHyphen]
    exact ⟨by decide, by decide, by decide⟩

theorem isNameable
    (plain : IsPlain character) :
    Path.isNameable character = true :=
  Path.isNameable_of_ascii plain.isAscii plain.notNull

end IsPlain

/-- All characters of a job id are plain, even a final newline. -/
theorem isPlain_of_mem_jobId
    {jobId : String}
    (accepted : isJobId jobId = true)
    {character : Char}
    (member : character ∈ jobId.toList) :
    IsPlain character := by
  simp only [isJobId, Bool.and_eq_true, List.all_eq_true] at accepted
  obtain ⟨⟨_, areAccepted⟩, _⟩ := accepted
  unfold checkedCharacters at areAccepted
  split at areAccepted
  · rename_i endsWithNewline
    obtain ⟨checked, whole⟩ := List.getLast?_eq_some_iff.mp endsWithNewline
    rw [whole, List.dropLast_concat] at areAccepted
    rw [whole, List.mem_append, List.mem_singleton] at member
    rcases member with isChecked | isNewline
    · exact .of_isJobIdCharacter (areAccepted character isChecked)
    · rw [isNewline]
      exact ⟨by decide, by decide, by decide⟩
  · exact .of_isJobIdCharacter (areAccepted character member)

/-- A request that is taken in has an id that can stand in file names. -/
theorem RenderRequest.isJobId_of_submission
    {request : RenderRequest}
    {submission : Submission}
    (accepted : request.submission = .ok submission) :
    isJobId submission.jobId = true := by
  unfold RenderRequest.submission at accepted
  split at accepted
  · cases accepted
  · rename_i jobId _
    cases isId : isJobId jobId with
    | false => simp [isId] at accepted
    | true =>
        simp only [isId, Bool.not_true, Bool.false_eq_true, ↓reduceIte]
          at accepted
        split at accepted
        · cases accepted
          exact isId
        · split at accepted
          · cases accepted
          · cases accepted
            exact isId

/-- All extensions that assets get can stand in file names. -/
def NameableExtensions (references : List AssetReference) : Prop :=
  ∀ reference ∈ references, ∀ extension,
    assetExtension reference.address reference.kind = .ok extension →
    extension.toList.all Path.isNameable = true

namespace FileSuffix

variable {references : List AssetReference} {suffix : String}

/-- An end of a name starts with an underscore. -/
theorem underscore_mem
    (isSuffix : FileSuffix references suffix) :
    '_' ∈ suffix.toList := by
  cases isSuffix with
  | output => decide
  | subtitles => decide
  | text => decide
  | asset number isReferred found => simp

/-- There is no slash in an end of a name. -/
theorem slash_not_mem
    (isSuffix : FileSuffix references suffix) :
    '/' ∉ suffix.toList := by
  cases isSuffix with
  | output => decide
  | subtitles => decide
  | text => decide
  | asset number isReferred found =>
      have noDigit : '/' ∉ decimalDigits number := by
        intro member
        have isDigit := isAsciiDigit_of_mem_decimalDigits member
        exact (IsPlain.of_isAsciiDigit isDigit).notSlash rfl
      simp [showNatural, noDigit, slash_not_mem_assetExtension found]

/-- Only the extension of an asset can keep an end out of file names. -/
theorem isNameable
    (isSuffix : FileSuffix references suffix)
    (nameable : NameableExtensions references) :
    suffix.toList.all Path.isNameable = true := by
  cases isSuffix with
  | output => decide
  | subtitles => decide
  | text => decide
  | asset number isReferred found =>
      have digits : (decimalDigits number).all Path.isNameable = true := by
        rw [List.all_eq_true]
        intro character member
        have isDigit := isAsciiDigit_of_mem_decimalDigits member
        exact (IsPlain.of_isAsciiDigit isDigit).isNameable
      have extension := nameable _ isReferred _ found
      simp only [String.toList_append, List.all_append, showNatural,
        String.toList_ofList, digits, extension, Bool.and_true]
      decide

/-- A job id and an end make a plain name. -/
theorem isPart
    (isSuffix : FileSuffix references suffix)
    {jobId : String}
    (accepted : isJobId jobId = true) :
    Path.IsPart (jobId ++ suffix) := by
  have underscore : '_' ∈ (jobId ++ suffix).toList := by
    simp [isSuffix.underscore_mem]
  refine ⟨List.ne_nil_of_mem underscore, ?_, ?_⟩
  · intro isDot
    rw [isDot] at underscore
    exact absurd underscore (by decide)
  · rw [String.toList_append, List.mem_append, not_or]
    refine ⟨?_, isSuffix.slash_not_mem⟩
    intro member
    exact (isPlain_of_mem_jobId accepted member).notSlash rfl

end FileSuffix

namespace Workspace

variable {references : List AssetReference} {workspace : Workspace}
  {suffix : String}

/-- A file of a job is one of the directory of the workspace. -/
theorem named_eq_child
    (accepted : isJobId workspace.jobId = true)
    (isSuffix : FileSuffix references suffix) :
    workspace.named suffix =
      workspace.root.child (workspace.jobId ++ suffix) :=
  Path.join_of_isPart workspace.root (isSuffix.isPart accepted)

theorem named_isIn
    (accepted : isJobId workspace.jobId = true)
    (isSuffix : FileSuffix references suffix) :
    (workspace.named suffix).IsIn workspace.root := by
  refine ⟨workspace.jobId ++ suffix, ?_, named_eq_child accepted isSuffix⟩
  intro isUp
  have underscore : '_' ∈ (jobId workspace ++ suffix).toList := by
    simp [isSuffix.underscore_mem]
  rw [isUp] at underscore
  exact absurd underscore (by decide)

/-- The names of a job can be used unless an extension forbids this. -/
theorem named_isUsable
    (accepted : isJobId workspace.jobId = true)
    (usable : workspace.root.isUsable = true)
    (nameable : NameableExtensions references)
    (isSuffix : FileSuffix references suffix) :
    (workspace.named suffix).isUsable = true := by
  have ownId : workspace.jobId.toList.all Path.isNameable = true := by
    rw [List.all_eq_true]
    intro character member
    exact (isPlain_of_mem_jobId accepted member).isNameable
  have ending := isSuffix.isNameable nameable
  rw [named_eq_child accepted isSuffix]
  unfold Path.isUsable Path.child
  rw [List.all_append, Bool.and_eq_true]
  refine ⟨usable, ?_⟩
  simp only [List.all_cons, List.all_nil, Bool.and_true, String.toList_append,
    List.all_append, ownId, ending]

end Workspace

end Montage
