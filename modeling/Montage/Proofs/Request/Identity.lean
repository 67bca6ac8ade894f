import Montage.Proofs.Render.Names
import Montage.Publish.Delivery

namespace Montage

/-!
# Ids of requests

A request is taken in for its id and for something to render. The id is put into
names of files, into a key and into an address as it is. Letters, digits and
three marks get there, and one newline, if the id ends in it: the check of the
characters stops before the end of the last line.
-/

/-! ## Names of jobs -/

/-- An ASCII letter, an ASCII digit, a dot, an underscore or a hyphen. -/
def IsNameCharacter (character : Char) : Prop :=
  ('A' ≤ character ∧ character ≤ 'Z') ∨
    ('a' ≤ character ∧ character ≤ 'z') ∨
    ('0' ≤ character ∧ character ≤ '9') ∨
    character = '.' ∨ character = '_' ∨ character = '-'

/-- One to 128 characters of names, the first one no dot. -/
structure IsJobName (name : List Char) : Prop where
  filled : 1 ≤ name.length
  short : name.length ≤ 128
  characters : ∀ character ∈ name, IsNameCharacter character
  notHidden : name.head? ≠ some '.'

theorem isJobIdCharacter_iff
    {character : Char} :
    isJobIdCharacter character = true ↔ IsNameCharacter character := by
  have marks : "_.-".toList = ['_', '.', '-'] := rfl
  simp only [isJobIdCharacter, isAsciiLetter, isAsciiDigit, IsNameCharacter,
    Bool.or_eq_true, Bool.and_eq_true, decide_eq_true_eq,
    List.contains_iff_mem, marks, List.mem_cons, List.not_mem_nil, or_false]
  tauto

/-- No name ends in a newline. -/
theorem IsJobName.getLast?_ne
    {name : List Char}
    (isName : IsJobName name) :
    name.getLast? ≠ some '\n' := by
  intro isLast
  have isNewline :=
    isJobIdCharacter_iff.mpr
      (isName.characters '\n' (List.mem_of_getLast? isLast))
  exact absurd isNewline (by decide)

/-! ## What is checked -/

/-- All of a text is checked but a newline at its end. -/
theorem eq_checkedCharacters (text : List Char) :
    text = checkedCharacters text ∨
      text = checkedCharacters text ++ ['\n'] := by
  unfold checkedCharacters
  split
  · rename_i isLast
    obtain ⟨before, rfl⟩ := List.getLast?_eq_some_iff.mp isLast
    rw [List.dropLast_concat]
    exact .inr rfl
  · exact .inl rfl

theorem checkedCharacters_concat (text : List Char) :
    checkedCharacters (text ++ ['\n']) = text := by
  simp [checkedCharacters]

theorem IsJobName.checkedCharacters_eq
    {name : List Char}
    (isName : IsJobName name) :
    checkedCharacters name = name := by
  unfold checkedCharacters
  split
  · rename_i isLast
    exact absurd isLast isName.getLast?_ne
  · rfl

theorem isJobId_iff_checked
    {jobId : String} :
    isJobId jobId = true ↔ IsJobName (checkedCharacters jobId.toList) := by
  simp only [isJobId, Bool.and_eq_true, Bool.not_eq_true',
    List.isEmpty_eq_false_iff, decide_eq_true_eq, List.all_eq_true,
    isJobIdCharacter_iff]
  constructor
  · rintro ⟨⟨⟨filled, short⟩, characters⟩, notHidden⟩
    exact
      { filled := List.length_pos_of_ne_nil filled
        short
        characters
        notHidden }
  · intro isName
    exact
      ⟨⟨⟨List.ne_nil_of_length_pos isName.filled, isName.short⟩,
        isName.characters⟩, isName.notHidden⟩

/-- A text that is the name of a job, or such a name and a newline. -/
def IsJobLine (jobId : String) : Prop :=
  ∃ name,
    IsJobName name ∧ (jobId.toList = name ∨ jobId.toList = name ++ ['\n'])

theorem isJobId_iff
    {jobId : String} :
    isJobId jobId = true ↔ IsJobLine jobId := by
  rw [isJobId_iff_checked]
  constructor
  · intro isName
    exact ⟨_, isName, eq_checkedCharacters jobId.toList⟩
  · rintro ⟨name, isName, same | same⟩
    · rwa [same, isName.checkedCharacters_eq]
    · rwa [same, checkedCharacters_concat]

/-- A newline at the end is the only other character of an accepted id. -/
theorem IsJobLine.forall_iff
    {jobId : String}
    (isLine : IsJobLine jobId) :
    (∀ character ∈ jobId.toList, IsNameCharacter character) ↔
      jobId.toList.getLast? ≠ some '\n' := by
  have noName : ¬ IsNameCharacter '\n' :=
    mt isJobIdCharacter_iff.mpr (by decide)
  obtain ⟨name, isName, same | same⟩ := isLine
  · rw [same]
    exact iff_of_true isName.characters isName.getLast?_ne
  · rw [same]
    refine iff_of_false (fun all => noName (all '\n' (by simp))) ?_
    simp

theorem IsJobLine.ne_empty
    {jobId : String}
    (isLine : IsJobLine jobId) :
    jobId ≠ "" := by
  rintro rfl
  exact absurd (isJobId_iff.mpr isLine) (by decide)

/-! ## What a request needs -/

namespace RenderRequest

/-- A text that is given and not empty. -/
def IsGiven (text : Option String) : Prop :=
  ∃ value, text = some value ∧ value ≠ ""

/-- Something to render: segments, or a video and a sound. -/
def HasMaterial (request : RenderRequest) : Prop :=
  (∃ entries, request.timeline = some entries ∧ entries ≠ []) ∨
    (IsGiven request.videoUrl ∧ IsGiven request.audioUrl)

theorem nonempty?_eq_some_iff
    {text : Option String}
    {value : String} :
    nonempty? text = some value ↔ text = some value ∧ value ≠ "" := by
  simp [nonempty?, Option.filter_eq_some_iff]

theorem isNone_nonempty?_iff
    {text : Option String} :
    (nonempty? text).isNone = true ↔ ¬ IsGiven text := by
  rw [Option.isNone_iff_eq_none, Option.eq_none_iff_forall_ne_some]
  simp only [IsGiven, ne_eq, nonempty?_eq_some_iff, not_exists]

theorem isComposition_iff
    {request : RenderRequest} :
    request.isComposition = true ↔
      ∃ entries, request.timeline = some entries ∧ entries ≠ [] := by
  unfold isComposition entries
  cases request.timeline with
  | none => simp
  | some entries => simp

/-- What the checks of a request ask for, in their order. -/
theorem hasMaterial_iff
    {request : RenderRequest} :
    request.HasMaterial ↔
      request.isComposition = true ∨
        ¬ ((nonempty? request.videoUrl).isNone = true ∨
          (nonempty? request.audioUrl).isNone = true) := by
  rw [HasMaterial, isComposition_iff, not_or, isNone_nonempty?_iff,
    isNone_nonempty?_iff, not_not, not_not]

/-- A request with an id and something to render. -/
def IsFit (request : RenderRequest) : Prop :=
  (∃ jobId, request.jobId = some jobId ∧ IsJobLine jobId) ∧
    request.HasMaterial

theorem submission_of_fit
    {request : RenderRequest}
    {jobId : String}
    (isId : request.jobId = some jobId)
    (isLine : IsJobLine jobId)
    (material : request.HasMaterial) :
    request.submission = .ok { jobId, request } := by
  have given : nonempty? request.jobId = some jobId :=
    nonempty?_eq_some_iff.mpr ⟨isId, isLine.ne_empty⟩
  unfold submission
  rw [given]
  dsimp only
  rw [isJobId_iff.mpr isLine, Bool.not_true, if_neg Bool.false_ne_true]
  rcases hasMaterial_iff.mp material with composes | bothGiven
  · rw [if_pos composes]
  · rw [if_neg bothGiven, ite_self]

theorem submission_of_unfit
    {request : RenderRequest}
    (unfit : ¬ request.IsFit) :
    ∃ message field,
      request.submission =
        .error (.invalidRequest (some message) (some field)) := by
  unfold submission
  split
  · exact ⟨_, _, rfl⟩
  · rename_i jobId given
    obtain ⟨isId, -⟩ := nonempty?_eq_some_iff.mp given
    split
    · exact ⟨_, _, rfl⟩
    · rename_i accepted
      rw [Bool.not_eq_true, Bool.not_eq_false', isJobId_iff] at accepted
      have lacks : ¬ request.HasMaterial := fun material =>
        unfit ⟨⟨jobId, isId, accepted⟩, material⟩
      rw [hasMaterial_iff, not_or, not_not] at lacks
      obtain ⟨noComposition, notBoth⟩ := lacks
      rw [if_neg noComposition, if_pos notBoth]
      exact ⟨_, _, rfl⟩

/-- A request is taken in exactly if it has something to render and an id that
is one to 128 letters, digits and marks, no dot in front, possibly with a
newline behind them; any other request is refused as invalid. The id is put as
it is into the names of all files of its job, into the key of its result and
into the address for download. So nothing but name characters gets there exactly
if the id does not end in a newline. -/
theorem ids_reach_names_as_they_are (request : RenderRequest) :
    ((∃ submission, request.submission = .ok submission) ↔ request.IsFit) ∧
    (∀ failure,
      request.submission = .error failure →
      ∃ message field,
        failure = .invalidRequest (some message) (some field)) ∧
    ∀ submission,
      request.submission = .ok submission →
      submission.request = request ∧
        request.jobId = some submission.jobId ∧
        ((∀ character ∈ submission.jobId.toList, IsNameCharacter character) ↔
          submission.jobId.toList.getLast? ≠ some '\n') ∧
        submission.jobId.toList <:+:
          (resultKey request.projectId submission.jobId).toList ∧
        ∀ (workspace : Workspace) (references : List AssetReference) suffix,
          workspace.jobId = submission.jobId →
          FileSuffix references suffix →
          (workspace.named suffix).name = submission.jobId ++ suffix ∧
            ∀ publicBase,
              (submission.jobId ++ suffix).toList <:+
                (downloadAddress publicBase (workspace.named suffix)).toList := by
  by_cases fit : request.IsFit
  · obtain ⟨⟨jobId, isId, isLine⟩, material⟩ := fit
    have taken := submission_of_fit isId isLine material
    refine ⟨iff_of_true ⟨_, taken⟩ ⟨⟨jobId, isId, isLine⟩, material⟩, ?_, ?_⟩
    · intro failure isFailure
      rw [taken] at isFailure
      cases isFailure
    · intro submission isSubmission
      rw [taken] at isSubmission
      cases isSubmission
      refine ⟨rfl, isId, isLine.forall_iff, ?_, ?_⟩
      · simp only [resultKey, String.toList_append]
        exact ⟨_, _, rfl⟩
      · intro workspace references suffix isOwn isSuffix
        have isName : (workspace.named suffix).name = jobId ++ suffix := by
          rw [Workspace.named_eq_child (isOwn ▸ isJobId_iff.mpr isLine)
            isSuffix, isOwn]
          simp [Path.name, Path.child]
        refine ⟨isName, fun publicBase => ?_⟩
        simp only [downloadAddress, isName, String.toList_append]
        exact List.suffix_append _ _
  · obtain ⟨message, field, refused⟩ := submission_of_unfit fit
    refine ⟨iff_of_false ?_ fit, ?_, ?_⟩
    · rintro ⟨submission, isSubmission⟩
      rw [refused] at isSubmission
      cases isSubmission
    · intro failure isFailure
      rw [refused] at isFailure
      cases isFailure
      exact ⟨message, field, rfl⟩
    · intro submission isSubmission
      rw [refused] at isSubmission
      cases isSubmission

/-- A request with an id and a video with a sound. -/
def voiced (jobId : String) : RenderRequest where
  jobId := some jobId
  projectId := none
  callbackUrl := none
  timeline := none
  output := none
  videoUrl := some "http://a.test/v.mp4"
  audioUrl := some "http://a.test/s.mp3"
  effects := {}
  text := none
  subtitleUrl := none
  subtitleContent := none

/-- An id with a newline behind it is taken in, and files are named by it. -/
theorem newline_reaches_names :
    (voiced "j1\n").submission =
        .ok { jobId := "j1\n", request := voiced "j1\n" } ∧
      ¬ IsNameCharacter '\n' ∧
      '\n' ∈
        (({ jobId := "j1\n", root := Path.ofText "/tmp" } : Workspace).named
          "_output.mp4").name.toList := by
  have taken :
      (voiced "j1\n").submission =
        .ok { jobId := "j1\n", request := voiced "j1\n" } := by
    rfl
  obtain ⟨-, -, reaches⟩ := ids_reach_names_as_they_are (voiced "j1\n")
  obtain ⟨-, -, -, -, names⟩ := reaches _ taken
  refine ⟨taken, mt isJobIdCharacter_iff.mpr (by decide), ?_⟩
  rw [(names _ [] "_output.mp4" rfl .output).1]
  decide

end RenderRequest

end Montage
