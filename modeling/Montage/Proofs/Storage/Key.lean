import Mathlib.Data.List.TakeWhile
import Montage.Proofs.Disk.Path
import Montage.Proofs.Text.Percent
import Montage.Request.Render
import Montage.Storage.Key

namespace Montage

/-!
# Keys in addresses

A key is read back from its public address exactly if it is literal: it has no
mark that ends the path of an address, and no escape. What encloses the project
in the key of a result is literal, so the project alone decides.
-/

/-! ## Texts that an address shows as they are -/

/-- A text has no mark that an address gives a meaning. -/
structure IsUnmarked (text : List Char) : Prop where
  noQuery : '?' ∉ text
  noFragment : '#' ∉ text
  noPercent : '%' ∉ text

/-- A text stands in an address as it is. -/
structure IsLiteral (text : List Char) : Prop where
  noQuery : '?' ∉ text
  noFragment : '#' ∉ text
  noEscape : ¬HasEscape text

theorem beforeChar_eq_self_iff
    (separator : Char)
    (text : List Char) :
    beforeChar separator text = text ↔ separator ∉ text := by
  unfold beforeChar
  rw [List.takeWhile_eq_self_iff]
  constructor
  · intro differ member
    simpa using differ separator member
  · intro free character member
    simpa using ne_of_mem_of_not_mem member free

theorem beforeChar_of_not_mem
    {separator : Char}
    {text : List Char}
    (free : separator ∉ text) :
    beforeChar separator text = text :=
  (beforeChar_eq_self_iff separator text).mpr free

/-- A text is read back from an address exactly if it is literal. -/
theorem percentDecode_beforeChar_eq_self_iff (text : List Char) :
    percentDecode (beforeChar '#' (beforeChar '?' text)) = text ↔
      IsLiteral text := by
  constructor
  · intro same
    have decoded :=
      length_percentDecode_le (beforeChar '#' (beforeChar '?' text))
    have fragment :=
      (List.takeWhile_prefix (l := beforeChar '?' text) (· ≠ '#')).length_le
    have query := List.takeWhile_prefix (l := text) (· ≠ '?')
    have queryLength := query.length_le
    have sameLength := congrArg List.length same
    -- Nothing was cut off, so neither mark is in the text.
    have whole : beforeChar '?' text = text := by
      refine query.eq_of_length ?_
      unfold beforeChar at *
      omega
    rw [whole] at same decoded fragment sameLength
    have wholeAgain : beforeChar '#' text = text := by
      refine (List.takeWhile_prefix _).eq_of_length ?_
      unfold beforeChar at *
      omega
    rw [wholeAgain] at same
    exact {
      noQuery := (beforeChar_eq_self_iff _ _).mp whole
      noFragment := (beforeChar_eq_self_iff _ _).mp wholeAgain
      noEscape := (percentDecode_eq_self_iff text).mp same }
  · intro literal
    rw [beforeChar_of_not_mem literal.noQuery,
      beforeChar_of_not_mem literal.noFragment,
      percentDecode_of_noEscape literal.noEscape]

/-! ## Escapes in a text between others -/

theorem HasEscape.append_left
    (before : List Char)
    {text : List Char}
    (escaped : HasEscape text) :
    HasEscape (before ++ text) := by
  induction before with
  | nil => exact escaped
  | cons character rest inductionHypothesis => exact .later inductionHypothesis

theorem StartsEscape.append_right
    {text : List Char}
    (starts : StartsEscape text)
    (after : List Char) :
    StartsEscape (text ++ after) := by
  obtain ⟨isHigh, isLow⟩ := starts
  exact .escape isHigh isLow

theorem HasEscape.append_right
    {text : List Char}
    (escaped : HasEscape text)
    (after : List Char) :
    HasEscape (text ++ after) := by
  induction escaped with
  | here starts => exact .here (starts.append_right after)
  | later _ inductionHypothesis => exact .later inductionHypothesis

theorem HasEscape.of_append_left
    {before text : List Char}
    (noPercent : '%' ∉ before)
    (escaped : HasEscape (before ++ text)) :
    HasEscape text := by
  induction before with
  | nil => exact escaped
  | cons character rest inductionHypothesis =>
      have notPercent : character ≠ '%' :=
        (List.ne_of_not_mem_cons noPercent).symm
      cases escaped with
      | here starts =>
          generalize all : character :: rest ++ text = whole at starts
          obtain ⟨isHigh, isLow⟩ := starts
          exact (notPercent (List.cons.inj all).1).elim
      | later inRest =>
          exact inductionHypothesis (List.not_mem_of_not_mem_cons noPercent)
            inRest

/-- No escape reaches over a slash. -/
theorem HasEscape.of_append_slash
    {text after : List Char}
    (noPercent : '%' ∉ after)
    (escaped : HasEscape (text ++ '/' :: after)) :
    HasEscape text := by
  have noDigit : ¬(hexValue? '/').isSome = true := by decide
  induction text with
  | nil =>
      have member : '%' ∈ '/' :: after := escaped.mem
      simp [noPercent] at member
  | cons character rest inductionHypothesis =>
      cases escaped with
      | later inRest => exact .later (inductionHypothesis inRest)
      | here starts =>
          match rest with
          | [] =>
              cases starts with
              | escape isHigh isLow => exact (noDigit isHigh).elim
          | [next] =>
              cases starts with
              | escape isHigh isLow => exact (noDigit isLow).elim
          | high :: low :: others =>
              cases starts with
              | escape isHigh isLow => exact .here (.escape isHigh isLow)

/-- What encloses a text without marks changes nothing. -/
theorem isLiteral_enclosed_iff
    {before after : List Char}
    (opening : IsUnmarked before)
    (closing : IsUnmarked after)
    (text : List Char) :
    IsLiteral (before ++ (text ++ '/' :: after)) ↔ IsLiteral text := by
  constructor
  · intro literal
    exact {
      noQuery := fun member => literal.noQuery (by simp [member])
      noFragment := fun member => literal.noFragment (by simp [member])
      noEscape := fun escaped =>
        literal.noEscape ((escaped.append_right _).append_left _) }
  · intro literal
    exact {
      noQuery := by
        simp [opening.noQuery, closing.noQuery, literal.noQuery]
      noFragment := by
        simp [opening.noFragment, closing.noFragment, literal.noFragment]
      noEscape := fun escaped =>
        literal.noEscape <|
          (escaped.of_append_left opening.noPercent).of_append_slash
            closing.noPercent }

/-! ## Keys -/

/-- All segments of a key are plain names. -/
def IsPlainKey (key : String) : Prop :=
  ∀ segment ∈ splitAtChar '/' key.toList, isPlainSegment segment = true

/-- A plain key is read back from its address exactly if it is literal. -/
theorem keyOfAddress?_publicAddress_iff
    (base : String)
    {key : String}
    (plain : IsPlainKey key) :
    keyOfAddress? (publicAddress base key) base = some key ↔
      IsLiteral key.toList := by
  have rest :
      afterBeginning? (base.toList ++ ['/'])
          (publicAddress base key).toList =
        some key.toList := by
    have address :
        (publicAddress base key).toList =
          (base.toList ++ ['/']) ++ key.toList := by
      simp [publicAddress]
    rw [address, afterBeginning?,
      if_pos (List.isPrefixOf_iff_prefix.mpr (List.prefix_append _ _)),
      List.drop_left]
  rw [← percentDecode_beforeChar_eq_self_iff]
  unfold keyOfAddress?
  rw [rest, Option.bind_some]
  constructor
  · intro found
    dsimp only at found
    split at found
    · have sameText := congrArg String.toList (Option.some.inj found)
      rwa [String.toList_ofList] at sameText
    · cases found
  · intro same
    rw [same, if_pos (List.all_eq_true.mpr plain), String.ofList_toList]

/-! ## Keys of results -/

/-- The project under which a result is stored. -/
def projectName (projectId : Option String) : String :=
  (projectId.filter (! ·.isEmpty)).getD "default"

theorem toList_resultKey
    (projectId : Option String)
    (jobId : String) :
    (resultKey projectId jobId).toList =
      "final/".toList ++
        ((projectName projectId).toList ++
          '/' :: ("final_".toList ++ (jobId.toList ++ ".mp4".toList))) := by
  simp [resultKey, projectName]

/-- A character that no job id has is not in the name of a result. -/
theorem not_mem_resultName
    {jobId : String}
    (isId : ∀ character ∈ jobId.toList, isJobIdCharacter character = true)
    {character : Char}
    (rejected : isJobIdCharacter character = false) :
    character ∉ "final_".toList ++ (jobId.toList ++ ".mp4".toList) := by
  have opening : "final_".toList.all isJobIdCharacter = true := by decide
  have closing : ".mp4".toList.all isJobIdCharacter = true := by decide
  rw [List.all_eq_true] at opening closing
  intro member
  have accepted : isJobIdCharacter character = true := by
    rcases List.mem_append.mp member with inOpening | inRest
    · exact opening _ inOpening
    · rcases List.mem_append.mp inRest with inId | inClosing
      · exact isId _ inId
      · exact closing _ inClosing
  rw [accepted] at rejected
  cases rejected

/-- The key of a result is plain if its project is. -/
theorem isPlainKey_resultKey
    {projectId : Option String}
    (plain : IsPlainKey (projectName projectId))
    {jobId : String}
    (isId : ∀ character ∈ jobId.toList, isJobIdCharacter character = true) :
    IsPlainKey (resultKey projectId jobId) := by
  have noSlash : '/' ∉ "final".toList := by decide
  have opening : "final/".toList = "final".toList ++ ['/'] := by decide
  have nameHasNoSlash : '/' ∉ _ := not_mem_resultName isId (by decide)
  have noBackslash : '\\' ∉ _ := not_mem_resultName isId (by decide)
  intro segment member
  rw [toList_resultKey, opening, List.append_assoc, List.singleton_append,
    splitAtChar_append_cons noSlash, splitAtChar_append,
    splitAtChar_of_not_mem nameHasNoSlash, List.mem_cons, List.mem_append,
    List.mem_singleton] at member
  rcases member with isOpening | inProject | isName
  · rw [isOpening]
    decide
  · exact plain segment inProject
  · rw [← isName] at noBackslash
    have notDots : segment ≠ ['.'] ∧ segment ≠ ['.', '.'] ∧ segment ≠ [] := by
      simp [isName]
    simp [isPlainSegment, notDots, noBackslash]

theorem isLiteral_resultKey_iff
    (projectId : Option String)
    {jobId : String}
    (isId : ∀ character ∈ jobId.toList, isJobIdCharacter character = true) :
    IsLiteral (resultKey projectId jobId).toList ↔
      IsLiteral (projectName projectId).toList := by
  rw [toList_resultKey]
  refine isLiteral_enclosed_iff ?_ ?_ _
  · exact ⟨by decide, by decide, by decide⟩
  · exact {
      noQuery := not_mem_resultName isId (by decide)
      noFragment := not_mem_resultName isId (by decide)
      noPercent := not_mem_resultName isId (by decide) }

end Montage
