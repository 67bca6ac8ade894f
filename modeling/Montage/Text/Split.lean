import Montage.Text.Blank

namespace Montage

/-!
# Splitting and replacing

Splitting text at one character, joining it again, replacing substrings, and
cutting it into lines.
-/

/-- The pieces between occurrences of a separator; always at least one piece. -/
def splitAtChar
    (separator : Char) :
    List Char → List (List Char)
  | [] => [[]]
  | character :: rest =>
      if character = separator then
        [] :: splitAtChar separator rest
      else
        match splitAtChar separator rest with
        | [] => [[character]]
        | piece :: others => (character :: piece) :: others

/-- Write a separator between consecutive pieces. -/
def joinWith
    (separator : List Char) :
    List (List Char) → List Char
  | [] => []
  | [piece] => piece
  | piece :: others => piece ++ separator ++ joinWith separator others

/-- The text before and after the first occurrence of a separator. -/
def cutAtChar?
    (separator : Char) :
    List Char → Option (List Char × List Char)
  | [] => none
  | character :: rest =>
      if character = separator then
        some ([], rest)
      else
        (cutAtChar? separator rest).map fun parts =>
          (character :: parts.1, parts.2)

/-- The text before the first occurrence of a separator, or all of it. -/
def beforeChar
    (separator : Char)
    (text : List Char) :
    List Char :=
  text.takeWhile (· ≠ separator)

/-- The text before and after the last occurrence of a separator. -/
def cutAtLastChar?
    (separator : Char)
    (text : List Char) :
    Option (List Char × List Char) :=
  (cutAtChar? separator text.reverse).map fun parts =>
    (parts.2.reverse, parts.1.reverse)

/-- Replace each character by a text. -/
def replaceChar
    (target : Char)
    (replacement : List Char)
    (text : List Char) :
    List Char :=
  text.flatMap fun character =>
    if character = target then replacement else [character]

/-- Replace the occurrences of a two-character text, from left to right. -/
def replacePair
    (first second : Char)
    (replacement : List Char) :
    List Char → List Char
  | [] => []
  | [character] => [character]
  | character :: next :: rest =>
      if character = first ∧ next = second then
        replacement ++ replacePair first second replacement rest
      else
        character :: replacePair first second replacement (next :: rest)

/-- Whether a text occurs somewhere in another. -/
def occursIn
    (part : List Char) :
    List Char → Bool
  | [] => part.isEmpty
  | character :: rest =>
      part.isPrefixOf (character :: rest) || occursIn part rest

/--
Replace the occurrences of a nonempty text, from left to right. The countdown
holds back the characters of an occurrence that was already replaced.
-/
def replaceText
    (target replacement : List Char)
    (held : Nat) :
    List Char → List Char
  | [] => []
  | character :: rest =>
      match held with
      | remaining + 1 => replaceText target replacement remaining rest
      | 0 =>
          if target.isPrefixOf (character :: rest) then
            replacement ++
              replaceText target replacement (target.length - 1) rest
          else
            character :: replaceText target replacement 0 rest

/-- Replace the occurrences of a nonempty text in a string. -/
def replaceIn
    (text target replacement : String) :
    String :=
  String.ofList
    (replaceText target.toList replacement.toList 0 text.toList)

/--
The lines of a text, where a carriage return and a newline together end one
line and a final line end starts no further line.
-/
def splitLines : List Char → List (List Char)
  | [] => []
  | [character] => if isLineBreak character then [[]] else [[character]]
  | character :: next :: rest =>
      if character = '\r' ∧ next = '\n' then
        [] :: splitLines rest
      else if isLineBreak character then
        [] :: splitLines (next :: rest)
      else
        match splitLines (next :: rest) with
        | [] => [[character]]
        | line :: others => (character :: line) :: others

/-- There is always a piece. -/
theorem splitAtChar_ne_nil
    (separator : Char)
    (text : List Char) :
    splitAtChar separator text ≠ [] := by
  cases text with
  | nil => simp [splitAtChar]
  | cons character rest =>
      simp only [splitAtChar]
      split
      · simp
      · split <;> simp

/-- Splitting loses only the separators. -/
theorem joinWith_splitAtChar
    (separator : Char)
    (text : List Char) :
    joinWith [separator] (splitAtChar separator text) = text := by
  induction text with
  | nil => rfl
  | cons character rest inductionHypothesis =>
      cases pieces : splitAtChar separator rest with
      | nil => exact absurd pieces (splitAtChar_ne_nil separator rest)
      | cons piece others =>
          rw [pieces] at inductionHypothesis
          by_cases isSeparator : character = separator
          · simp [splitAtChar, isSeparator, pieces, joinWith,
              inductionHypothesis]
          · cases others with
            | nil => simp_all [splitAtChar, joinWith]
            | cons other remaining => simp_all [splitAtChar, joinWith]

/-- A piece between separators has none inside. -/
theorem not_mem_of_mem_splitAtChar
    {separator : Char}
    {text piece : List Char}
    (member : piece ∈ splitAtChar separator text) :
    separator ∉ piece := by
  induction text generalizing piece with
  | nil =>
      simp only [splitAtChar, List.mem_singleton] at member
      subst member
      simp
  | cons character rest inductionHypothesis =>
      by_cases isSeparator : character = separator
      · simp only [splitAtChar, isSeparator, ↓reduceIte,
          List.mem_cons] at member
        rcases member with isFirst | inRest
        · subst isFirst
          simp
        · exact inductionHypothesis inRest
      · cases pieces : splitAtChar separator rest with
        | nil => exact (splitAtChar_ne_nil separator rest pieces).elim
        | cons first others =>
            rw [pieces] at inductionHypothesis
            simp only [splitAtChar, isSeparator, ↓reduceIte, pieces,
              List.mem_cons] at member
            rcases member with isFirst | inOthers
            · subst isFirst
              have inside := inductionHypothesis List.mem_cons_self
              simp [inside, Ne.symm isSeparator]
            · exact inductionHypothesis (List.mem_cons_of_mem first inOthers)

/-- A text without separators is one piece. -/
theorem splitAtChar_of_not_mem
    {separator : Char}
    {piece : List Char}
    (free : separator ∉ piece) :
    splitAtChar separator piece = [piece] := by
  induction piece with
  | nil => rfl
  | cons character rest inductionHypothesis =>
      rw [List.mem_cons, not_or] at free
      simp [splitAtChar, Ne.symm free.1, inductionHypothesis free.2]

/-- A text is split at a separator in it, and on both sides of it. -/
theorem splitAtChar_append
    (separator : Char)
    (before rest : List Char) :
    splitAtChar separator (before ++ separator :: rest) =
      splitAtChar separator before ++ splitAtChar separator rest := by
  induction before with
  | nil => simp [splitAtChar]
  | cons character others inductionHypothesis =>
      cases pieces : splitAtChar separator others with
      | nil => exact (splitAtChar_ne_nil separator others pieces).elim
      | cons first further =>
          rw [pieces] at inductionHypothesis
          simp only [List.cons_append, splitAtChar, inductionHypothesis,
            pieces]
          split <;> rfl

/-- A piece before a separator is split off. -/
theorem splitAtChar_append_cons
    {separator : Char}
    {piece : List Char}
    (free : separator ∉ piece)
    (rest : List Char) :
    splitAtChar separator (piece ++ separator :: rest) =
      piece :: splitAtChar separator rest := by
  rw [splitAtChar_append, splitAtChar_of_not_mem free, List.singleton_append]

/-- Pieces without separators are found again after they were joined. -/
theorem splitAtChar_joinWith
    {separator : Char}
    {pieces : List (List Char)}
    (some : pieces ≠ [])
    (free : ∀ piece ∈ pieces, separator ∉ piece) :
    splitAtChar separator (joinWith [separator] pieces) = pieces := by
  induction pieces with
  | nil => exact (some rfl).elim
  | cons piece others inductionHypothesis =>
      have pieceFree := free piece List.mem_cons_self
      cases others with
      | nil => exact splitAtChar_of_not_mem pieceFree
      | cons other remaining =>
          have later :=
            inductionHypothesis (by simp) fun item member =>
              free item (List.mem_cons_of_mem piece member)
          simp only [joinWith, List.append_assoc, List.singleton_append]
          rw [splitAtChar_append_cons pieceFree, later]

/-- Leading separators are split off as empty pieces. -/
theorem splitAtChar_replicate_append
    (separator : Char)
    (count : Nat)
    (rest : List Char) :
    splitAtChar separator (List.replicate count separator ++ rest) =
      List.replicate count [] ++ splitAtChar separator rest := by
  induction count with
  | zero => rfl
  | succ count inductionHypothesis =>
      simp [List.replicate_succ, splitAtChar, inductionHypothesis]

/-- A character that is no separator is added to the last piece. -/
theorem splitAtChar_concat
    {separator character : Char}
    (different : character ≠ separator)
    (text : List Char) :
    ∃ before piece,
      splitAtChar separator text = before ++ [piece] ∧
      splitAtChar separator (text ++ [character]) =
        before ++ [piece ++ [character]] := by
  induction text with
  | nil => exact ⟨[], [], rfl, by simp [splitAtChar, different]⟩
  | cons first rest inductionHypothesis =>
      obtain ⟨before, piece, split, longer⟩ := inductionHypothesis
      by_cases isSeparator : first = separator
      · refine ⟨[] :: before, piece, ?_, ?_⟩
        · simp [splitAtChar, isSeparator, split]
        · simp [splitAtChar, isSeparator, longer]
      · cases before with
        | nil =>
            refine ⟨[], first :: piece, ?_, ?_⟩
            · simp [splitAtChar, isSeparator, split]
            · simp [splitAtChar, isSeparator, longer]
        | cons second others =>
            refine ⟨(first :: second) :: others, piece, ?_, ?_⟩
            · simp [splitAtChar, isSeparator, split]
            · simp [splitAtChar, isSeparator, longer]

/-- A character that is not there is not replaced. -/
theorem replaceChar_of_not_mem
    {target : Char}
    {text : List Char}
    (free : target ∉ text)
    (replacement : List Char) :
    replaceChar target replacement text = text := by
  induction text with
  | nil => rfl
  | cons character rest inductionHypothesis =>
      rw [List.mem_cons, not_or] at free
      rw [replaceChar, List.flatMap_cons, ← replaceChar,
        if_neg (Ne.symm free.1), inductionHypothesis free.2,
        List.singleton_append]

/-- Joining loses no character of a piece. -/
theorem mem_joinWith_of_mem
    (separator : List Char)
    {pieces : List (List Char)}
    {piece : List Char}
    {character : Char}
    (isPiece : piece ∈ pieces)
    (member : character ∈ piece) :
    character ∈ joinWith separator pieces := by
  induction pieces with
  | nil => cases isPiece
  | cons first others inductionHypothesis =>
      cases others with
      | nil =>
          rw [List.mem_singleton] at isPiece
          rwa [joinWith, ← isPiece]
      | cons other remaining =>
          rw [joinWith, List.mem_append, List.mem_append]
          · rcases List.mem_cons.mp isPiece with isFirst | isLater
            · exact Or.inl (Or.inl (isFirst ▸ member))
            · exact Or.inr (inductionHypothesis isLater)
          · simp

/-- A text occurs wherever it was put. -/
theorem occursIn_append
    (part before after : List Char) :
    occursIn part (before ++ part ++ after) = true := by
  induction before with
  | nil =>
      have here : part.isPrefixOf (part ++ after) = true :=
        List.isPrefixOf_iff_prefix.mpr (List.prefix_append part after)
      rw [List.nil_append]
      cases whole : part ++ after with
      | nil => simp [occursIn, (List.append_eq_nil_iff.mp whole).1]
      | cons character rest =>
          rw [whole] at here
          rw [occursIn, here, Bool.true_or]
  | cons character rest inductionHypothesis =>
      rw [List.cons_append, List.cons_append, occursIn, inductionHypothesis,
        Bool.or_true]

end Montage
