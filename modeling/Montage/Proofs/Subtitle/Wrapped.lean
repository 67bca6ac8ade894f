import Montage.Proofs.Subtitle.Lines

namespace Montage

/-!
# Wrapped texts

A text is wrapped into as few lines as its words and the limit allow. A document
writes hard line breaks between the lines, so they are displayed as they are,
unless the text has hard line breaks of its own: each of these divides a line,
and the word in which it stands.
-/

/-! ## Words -/

section Words

variable {character next : Char} {text rest word : List Char}

theorem words_cons
    (blank : isBlank character = true)
    (text : List Char) :
    words (character :: text) = words text := by
  simp [words.eq_def (character :: text), blank]

theorem words_ne_nil
    (solid : isBlank character = false)
    (text : List Char) :
    words (character :: text) ≠ [] := by
  have letters := flatten_words (character :: text)
  intro none
  simp [none, solid] at letters

/-- A word ends before a blank. -/
theorem words_cons_blank
    (solid : isBlank character = false)
    (blank : isBlank next = true)
    (rest : List Char) :
    words (character :: next :: rest) = [character] :: words rest := by
  simp [words.eq_def (character :: next :: rest), solid, blank,
    words_cons blank]

/-- A word goes on up to a blank. -/
theorem words_cons_solid
    {others : List (List Char)}
    (solid : isBlank character = false)
    (goesOn : isBlank next = false)
    (later : words (next :: rest) = word :: others) :
    words (character :: next :: rest) = (character :: word) :: others := by
  simp [words.eq_def (character :: next :: rest), solid, goesOn, later]

/-- The words of a text are those on both sides of a blank. -/
theorem words_append
    {blank : Char}
    (isBlank : isBlank blank = true)
    (before after : List Char) :
    words (before ++ blank :: after) = words before ++ words after := by
  induction before with
  | nil => exact words_cons isBlank after
  | cons first others inductionHypothesis =>
      cases solid : Montage.isBlank first with
      | true =>
          rw [List.cons_append, words_cons solid, words_cons solid,
            inductionHypothesis]
      | false =>
          cases others with
          | nil =>
              rw [List.singleton_append, words_cons_blank solid isBlank]
              simp [words.eq_def [first], solid]
          | cons second more =>
              rw [List.cons_append] at inductionHypothesis ⊢
              cases goesOn : Montage.isBlank second with
              | true =>
                  rw [words_cons goesOn, words_cons goesOn]
                    at inductionHypothesis
                  rw [List.cons_append, words_cons_blank solid goesOn,
                    words_cons_blank solid goesOn, inductionHypothesis,
                    List.cons_append]
              | false =>
                  obtain ⟨word, later, isWords⟩ :=
                    List.exists_cons_of_ne_nil (words_ne_nil goesOn more)
                  rw [isWords, List.cons_append] at inductionHypothesis
                  rw [List.cons_append, words_cons_solid solid goesOn isWords,
                    words_cons_solid solid goesOn inductionHypothesis,
                    List.cons_append]

/-- A text without blanks is one word. -/
theorem words_of_solid
    (filled : text ≠ [])
    (solid : ∀ character ∈ text, isBlank character = false) :
    words text = [text] := by
  induction text with
  | nil => exact absurd rfl filled
  | cons first others inductionHypothesis =>
      rw [List.forall_mem_cons] at solid
      cases others with
      | nil => simp [words.eq_def [first], solid.1]
      | cons second more =>
          exact words_cons_solid solid.1 (solid.2 second List.mem_cons_self)
            (inductionHypothesis (by simp) solid.2)

/-- A text is without blanks, or it is two texts with a blank between them. -/
theorem blank_induction
    {motive : List Char → Prop}
    (solid :
      ∀ text,
        (∀ character ∈ text, isBlank character = false) → motive text)
    (parted :
      ∀ before blank after,
        isBlank blank = true →
        motive before →
        motive after →
        motive (before ++ blank :: after))
    (text : List Char) :
    motive text := by
  induction length : text.length using Nat.strong_induction_on
    generalizing text with
  | h count inductionHypothesis =>
      by_cases some : ∃ character ∈ text, isBlank character = true
      · obtain ⟨blank, member, isBlank⟩ := some
        obtain ⟨before, after, rfl⟩ := List.append_of_mem member
        simp only [List.length_append, List.length_cons] at length
        exact parted before blank after isBlank
          (inductionHypothesis _ (by omega) before rfl)
          (inductionHypothesis _ (by omega) after rfl)
      · exact solid text (by simpa using some)

/-- A word is its own only word. -/
theorem words_of_mem
    (isWord : word ∈ words text) :
    words word = [word] := by
  induction text using blank_induction with
  | solid text solid =>
      by_cases filled : text = []
      · rw [filled] at isWord
        cases isWord
      · have alone := words_of_solid filled solid
        rw [alone, List.mem_singleton] at isWord
        rw [isWord, alone]
  | parted before blank after isBlank ofBefore ofAfter =>
      rw [words_append isBlank, List.mem_append] at isWord
      exact isWord.elim ofBefore ofAfter

theorem words_eq_nil_iff (text : List Char) :
    words text = [] ↔ ∀ character ∈ text, isBlank character = true := by
  have letters := flatten_words text
  constructor
  · intro none
    rw [none, List.flatten_nil, eq_comm, List.filter_eq_nil_iff] at letters
    simpa using letters
  · intro blank
    induction text with
    | nil => rfl
    | cons character rest inductionHypothesis =>
        rw [List.forall_mem_cons] at blank
        rw [words_cons blank.1]
        exact inductionHypothesis (flatten_words rest) blank.2

end Words

/-! ## Lines -/

/-- A line as it may be displayed: words with single spaces between them, which
fit or are one word. -/
structure IsLine (limit : Nat) (line : List Char) : Prop where
  filled : words line ≠ []
  spaced : joinWith [' '] (words line) = line
  fits : line.length ≤ limit ∨ ∃ word, words line = [word]

/-- A line of one word has no blanks. -/
theorem IsLine.solid
    {limit : Nat}
    {line word : List Char}
    (isLine : IsLine limit line)
    (isWord : words line = [word]) :
    ∀ character ∈ line, isBlank character = false := by
  have spaced := isLine.spaced
  have letters := flatten_words line
  rw [isWord, joinWith] at spaced
  rw [isWord, List.flatten_singleton, spaced, eq_comm, List.filter_eq_self]
    at letters
  simpa using letters

/-- Parts of a line fit as the line does. -/
theorem IsLine.fits_of_sublist
    {limit : Nat}
    {line piece : List Char}
    (isLine : IsLine limit line)
    (isPart : piece.Sublist line) :
    piece.length ≤ limit ∨ ∃ word, words piece = [word] := by
  rcases isLine.fits with short | ⟨word, isWord⟩
  · exact Or.inl (isPart.length_le.trans short)
  · by_cases filled : piece = []
    · rw [filled]
      exact Or.inl (Nat.zero_le limit)
    · exact Or.inr ⟨piece, words_of_solid filled fun character member =>
        isLine.solid isWord character (isPart.subset member)⟩

/-- Words are broken into lines, in their order. -/
structure IsBreaking
    (limit : Nat)
    (parts lines : List (List Char)) :
    Prop where
  isLine : ∀ line ∈ lines, IsLine limit line
  parts : lines.flatMap words = parts

/-- The first word of the next line does not fit on a line any more. -/
def IsFull (limit : Nat) (line next : List Char) : Prop :=
  ∀ word ∈ (words next).head?, limit < line.length + 1 + word.length

theorem joinWith_concat
    (separator piece : List Char)
    {pieces : List (List Char)}
    (some : pieces ≠ []) :
    joinWith separator (pieces ++ [piece]) =
      joinWith separator pieces ++ separator ++ piece := by
  induction pieces using joinWith.induct with
  | case1 => exact absurd rfl some
  | case2 first => simp [joinWith]
  | case3 first others notEmpty inductionHypothesis =>
      have longer : others ++ [piece] ≠ [] := by simp
      rw [List.cons_append, joinWith, joinWith, inductionHypothesis notEmpty]
      · simp
      · exact notEmpty
      · exact longer

section Filling

variable {limit : Nat} {line other word : List Char}
  {rest parts lines : List (List Char)}

theorem isLine_of_word
    (limit : Nat)
    (isWord : words word = [word]) :
    IsLine limit word where
  filled := by simp [isWord]
  spaced := by rw [isWord, joinWith]
  fits := Or.inr ⟨word, isWord⟩

theorem words_concat
    (line : List Char)
    (isWord : words word = [word]) :
    words (line ++ ' ' :: word) = words line ++ [word] := by
  rw [words_append (by decide), isWord]

/-- A word that fits on a line makes it a longer line. -/
theorem IsLine.concat
    (isLine : IsLine limit line)
    (isWord : words word = [word])
    (fits : line.length + 1 + word.length ≤ limit) :
    IsLine limit (line ++ ' ' :: word) where
  filled := by simp [words_concat line isWord]
  spaced := by
    rw [words_concat line isWord, joinWith_concat [' '] word isLine.filled,
      isLine.spaced, List.append_assoc, List.singleton_append]
  fits := by
    left
    simp only [List.length_append, List.length_cons]
    omega

/-- Filled lines hold the words of the open line and all that follow. -/
theorem isBreaking_fillLines
    (isLine : IsLine limit line)
    (areWords : ∀ word ∈ rest, words word = [word]) :
    IsBreaking limit (words line ++ rest) (fillLines limit line rest) := by
  induction rest generalizing line with
  | nil => exact ⟨by simpa [fillLines] using isLine, by simp [fillLines]⟩
  | cons word others inductionHypothesis =>
      rw [List.forall_mem_cons] at areWords
      unfold fillLines
      split
      · rename_i fits
        have longer := inductionHypothesis
          (isLine.concat areWords.1 fits) areWords.2
        rwa [words_concat line areWords.1, List.append_assoc,
          List.singleton_append] at longer
      · obtain ⟨areLines, later⟩ := inductionHypothesis
          (isLine_of_word limit areWords.1) areWords.2
        refine ⟨List.forall_mem_cons.mpr ⟨isLine, areLines⟩, ?_⟩
        rw [List.flatMap_cons, later, areWords.1, List.singleton_append]

/-- The open line becomes the first line, and keeps its first word. -/
theorem fillLines_cons
    (limit : Nat)
    (filled : words line ≠ [])
    (areWords : ∀ word ∈ rest, words word = [word]) :
    ∃ first others,
      fillLines limit line rest = first :: others ∧
      (words first).head? = (words line).head? := by
  induction rest generalizing line with
  | nil => exact ⟨line, [], rfl, rfl⟩
  | cons word others inductionHypothesis =>
      rw [List.forall_mem_cons] at areWords
      unfold fillLines
      split
      · have longer := words_concat line areWords.1
        obtain ⟨first, later, isFilled, sameFirst⟩ :=
          @inductionHypothesis (line ++ ' ' :: word)
            (by simp [longer]) areWords.2
        refine ⟨first, later, isFilled, sameFirst.trans ?_⟩
        rw [longer, List.head?_append_of_ne_nil _ filled]
      · exact ⟨line, _, rfl, rfl⟩

/-- No line but the last has room for the next word. -/
theorem isChain_fillLines
    (filled : words line ≠ [])
    (areWords : ∀ word ∈ rest, words word = [word]) :
    (fillLines limit line rest).IsChain (IsFull limit) := by
  induction rest generalizing line with
  | nil => exact .singleton line
  | cons word others inductionHypothesis =>
      rw [List.forall_mem_cons] at areWords
      have isWord := areWords.1
      unfold fillLines
      split
      · exact inductionHypothesis (by simp [words_concat line isWord])
          areWords.2
      · rename_i tooLong
        have wordFilled : words word ≠ [] := by simp [isWord]
        have later := inductionHypothesis wordFilled areWords.2
        obtain ⟨first, more, isFilled, sameFirst⟩ :=
          fillLines_cons limit wordFilled areWords.2
        rw [isFilled] at later ⊢
        refine List.isChain_cons_cons.mpr ⟨?_, later⟩
        intro next isNext
        rw [sameFirst, isWord, List.head?_cons, Option.mem_some_iff] at isNext
        rw [← isNext]
        omega

/-! ## Fewest lines -/

/-- With a longer line open there are as many lines, or one more. -/
theorem length_fillLines_mono
    (shorter : line.length ≤ other.length)
    (rest : List (List Char)) :
    (fillLines limit line rest).length ≤
        (fillLines limit other rest).length ∧
      (fillLines limit other rest).length ≤
        (fillLines limit line rest).length + 1 := by
  induction rest generalizing line other with
  | nil => simp [fillLines]
  | cons word others inductionHypothesis =>
      have bothFit :=
        @inductionHypothesis (line ++ ' ' :: word) (other ++ ' ' :: word)
          (by simpa using shorter)
      have oneFits :=
        @inductionHypothesis word (line ++ ' ' :: word)
          (by simp only [List.length_append, List.length_cons]; omega)
      unfold fillLines
      split
      · split
        · exact bothFit
        · rw [List.length_cons]
          omega
      · rw [if_neg (by omega)]
        simp only [List.length_cons]
        omega

/-- The lines that words are wrapped into. -/
def filledLines (limit : Nat) : List (List Char) → List (List Char)
  | [] => []
  | word :: rest => fillLines limit word rest

theorem wrappedLines_eq (limit : Nat) (text : List Char) :
    wrappedLines limit text = filledLines limit (words text) := by
  unfold wrappedLines
  cases words text <;> rfl

theorem wrappedLines_eq_nil_iff (limit : Nat) (text : List Char) :
    wrappedLines limit text = [] ↔ words text = [] := by
  have some (line : List Char) (rest : List (List Char)) :
      fillLines limit line rest ≠ [] := by
    fun_induction fillLines limit line rest <;> simp_all
  rw [wrappedLines_eq]
  cases words text with
  | nil => exact iff_of_true rfl rfl
  | cons word rest => simpa [filledLines] using some word rest

/-- An open line is at most one more. -/
theorem length_fillLines_le
    (limit : Nat)
    (line : List Char)
    (rest : List (List Char)) :
    (fillLines limit line rest).length ≤
      (filledLines limit rest).length + 1 := by
  cases rest with
  | nil => simp [fillLines, filledLines]
  | cons word others =>
      have shorter : word.length ≤ (line ++ ' ' :: word).length := by
        simp only [List.length_append, List.length_cons]
        omega
      unfold fillLines
      split
      · exact (length_fillLines_mono shorter others).2
      · exact Nat.le_refl _

/-- Words that fit on a line are put on it. -/
theorem fillLines_of_fits
    {more : List (List Char)}
    (fits : (joinWith [' '] (line :: more)).length ≤ limit)
    (rest : List (List Char)) :
    fillLines limit line (more ++ rest) =
      fillLines limit (joinWith [' '] (line :: more)) rest := by
  induction more generalizing line with
  | nil => rfl
  | cons word others inductionHypothesis =>
      have regrouped :
          joinWith [' '] (line :: word :: others) =
            joinWith [' '] ((line ++ ' ' :: word) :: others) := by
        cases others <;> simp [joinWith]
      rw [regrouped] at fits ⊢
      rw [← inductionHypothesis fits, List.cons_append, fillLines, if_pos]
      have longer :
          (line ++ ' ' :: word).length ≤
            (joinWith [' '] ((line ++ ' ' :: word) :: others)).length := by
        cases others <;> simp [joinWith]
      simp only [List.length_append, List.length_cons] at longer
      omega

/-- Up to the end of any line, filling goes on with this line open. -/
theorem IsLine.filledLines_append
    (isLine : IsLine limit line)
    (rest : List (List Char)) :
    filledLines limit (words line ++ rest) = fillLines limit line rest := by
  obtain ⟨filled, spaced, fits⟩ := isLine
  rcases fits with fits | ⟨word, isWord⟩
  · obtain ⟨first, more, isWords⟩ := List.exists_cons_of_ne_nil filled
    rw [isWords] at spaced ⊢
    rw [List.cons_append, filledLines, fillLines_of_fits (by rwa [spaced]),
      spaced]
  · rw [isWord, joinWith] at spaced
    rw [isWord, spaced]
    rfl

/-- No way to break words into lines needs fewer lines than filling does. -/
theorem IsBreaking.length_filledLines_le
    (isBreaking : IsBreaking limit parts lines) :
    (filledLines limit parts).length ≤ lines.length := by
  -- By induction on the lines: the words of the first line are filled into one
  -- line at most, whatever follows.
  obtain ⟨areLines, rfl⟩ := isBreaking
  induction lines with
  | nil => simp [filledLines]
  | cons line others inductionHypothesis =>
      rw [List.forall_mem_cons] at areLines
      have later := inductionHypothesis areLines.2
      rw [List.flatMap_cons, areLines.1.filledLines_append, List.length_cons]
      calc (fillLines limit line (others.flatMap words)).length
          ≤ (filledLines limit (others.flatMap words)).length + 1 :=
            length_fillLines_le limit line _
        _ ≤ others.length + 1 := Nat.add_le_add_right later 1

end Filling

theorem isBreaking_filledLines
    (limit : Nat)
    {parts : List (List Char)}
    (areWords : ∀ word ∈ parts, words word = [word]) :
    IsBreaking limit parts (filledLines limit parts) ∧
      (filledLines limit parts).IsChain (IsFull limit) := by
  cases parts with
  | nil => exact ⟨⟨nofun, rfl⟩, .nil⟩
  | cons word rest =>
      rw [List.forall_mem_cons] at areWords
      have isLine := isLine_of_word limit areWords.1
      have isBreaking := isBreaking_fillLines isLine areWords.2
      rw [areWords.1, List.singleton_append] at isBreaking
      exact ⟨isBreaking, isChain_fillLines isLine.filled areWords.2⟩

/--
A text is wrapped for every limit: its words, in their order, are broken into
lines that fit or are one word, a line ends only where the next word does not
fit, and no other way to break the words into such lines needs fewer of them.
-/
theorem wrapping_needs_fewest_lines
    (limit : Nat)
    (text : List Char) :
    breakLinesAt (.integer limit) text =
      .ok (joinWith ['\\', 'N'] (wrappedLines limit text)) ∧
    IsBreaking limit (words text) (wrappedLines limit text) ∧
    (wrappedLines limit text).IsChain (IsFull limit) ∧
    ∀ lines,
      IsBreaking limit (words text) lines →
      (wrappedLines limit text).length ≤ lines.length := by
  obtain ⟨isBreaking, isChain⟩ :=
    isBreaking_filledLines limit fun word (isWord : word ∈ words text) =>
      words_of_mem isWord
  refine ⟨?_, ?_, ?_, fun lines isOther => ?_⟩
  · simp [breakLinesAt, Json.amount?, wholeLimit, breakLines]
  · rwa [wrappedLines_eq]
  · rwa [wrappedLines_eq]
  · rw [wrappedLines_eq]
    exact isOther.length_filledLines_le

/-! ## Displayed lines -/

/-- The pieces between the occurrences of a two-character text, found from left
to right; always at least one piece. -/
def splitAtPair
    (first second : Char) :
    List Char → List (List Char)
  | [] => [[]]
  | [character] => [[character]]
  | character :: next :: rest =>
      if character = first ∧ next = second then
        [] :: splitAtPair first second rest
      else
        match splitAtPair first second (next :: rest) with
        | [] => [[character]]
        | piece :: others => (character :: piece) :: others

section Pairs

variable {first second : Char}

theorem splitAtPair_ne_nil
    (first second : Char)
    (text : List Char) :
    splitAtPair first second text ≠ [] := by
  fun_induction splitAtPair first second text <;> simp

theorem splitAtPair_pair (rest : List Char) :
    splitAtPair first second (first :: second :: rest) =
      [] :: splitAtPair first second rest := by
  simp [splitAtPair]

/-- A character that starts no occurrence is put in front of the first piece. -/
theorem splitAtPair_cons
    {character : Char}
    {rest piece : List Char}
    {others : List (List Char)}
    (noPair : ¬ (character = first ∧ rest.head? = some second))
    (later : splitAtPair first second rest = piece :: others) :
    splitAtPair first second (character :: rest) =
      (character :: piece) :: others := by
  cases rest with
  | nil =>
      cases later
      rfl
  | cons next more =>
      rw [List.head?_cons, Option.some_inj] at noPair
      rw [splitAtPair, if_neg noPair, later]

/-- A text is read one occurrence, or else one character, after another. -/
theorem pair_induction
    (first second : Char)
    {motive : List Char → Prop}
    (nil : motive [])
    (pair : ∀ rest, motive rest → motive (first :: second :: rest))
    (other :
      ∀ character rest,
        ¬ (character = first ∧ rest.head? = some second) →
        motive rest →
        motive (character :: rest))
    (text : List Char) :
    motive text := by
  fun_induction splitAtPair first second text with
  | case1 => exact nil
  | case2 character => exact other character [] (by simp) nil
  | case3 character next rest isPair inductionHypothesis =>
      obtain ⟨rfl, rfl⟩ := isPair
      exact pair rest inductionHypothesis
  | case4 character next rest noPair _ inductionHypothesis =>
      exact other character _ (by simpa using noPair) inductionHypothesis
  | case5 character next rest noPair _ _ _ inductionHypothesis =>
      exact other character _ (by simpa using noPair) inductionHypothesis

/-- A text is split where an occurrence was put, and on both sides of it. -/
theorem splitAtPair_append
    (different : first ≠ second)
    (before after : List Char) :
    splitAtPair first second (before ++ first :: second :: after) =
      splitAtPair first second before ++ splitAtPair first second after := by
  induction before using pair_induction first second
  with
  | nil => exact splitAtPair_pair after
  | pair rest inductionHypothesis =>
      rw [List.cons_append, List.cons_append, splitAtPair_pair,
        splitAtPair_pair, inductionHypothesis, List.cons_append]
  | other character rest noPair inductionHypothesis =>
      obtain ⟨piece, others, isSplit⟩ :=
        List.exists_cons_of_ne_nil (splitAtPair_ne_nil first second rest)
      rw [isSplit, List.cons_append] at inductionHypothesis
      rw [List.cons_append, splitAtPair_cons noPair isSplit]
      refine splitAtPair_cons ?_ inductionHypothesis
      cases rest with
      | nil => simp [different]
      | cons next more => exact noPair

/-- Pieces with occurrences between them are split as each piece is. -/
theorem splitAtPair_joinWith
    (different : first ≠ second)
    {pieces : List (List Char)}
    (some : pieces ≠ []) :
    splitAtPair first second (joinWith [first, second] pieces) =
      pieces.flatMap (splitAtPair first second) := by
  induction pieces using joinWith.induct with
  | case1 => exact absurd rfl some
  | case2 piece => simp [joinWith]
  | case3 piece others notEmpty inductionHypothesis =>
      rw [joinWith, List.append_assoc, List.cons_append, List.singleton_append,
        splitAtPair_append different, inductionHypothesis notEmpty,
        List.flatMap_cons]
      exact notEmpty

theorem sublist_of_mem_splitAtPair
    {text piece : List Char}
    (member : piece ∈ splitAtPair first second text) :
    piece.Sublist text := by
  induction text using pair_induction first second
    generalizing piece with
  | nil =>
      rw [splitAtPair, List.mem_singleton] at member
      rw [member]
  | pair rest inductionHypothesis =>
      rw [splitAtPair_pair] at member
      rcases List.mem_cons.mp member with rfl | isLater
      · exact List.nil_sublist _
      · exact ((inductionHypothesis isLater).cons _).cons _
  | other character rest noPair inductionHypothesis =>
      obtain ⟨opening, others, isSplit⟩ :=
        List.exists_cons_of_ne_nil (splitAtPair_ne_nil first second rest)
      rw [isSplit] at inductionHypothesis
      rw [splitAtPair_cons noPair isSplit] at member
      rcases List.mem_cons.mp member with rfl | isLater
      · exact (inductionHypothesis List.mem_cons_self).cons_cons character
      · exact (inductionHypothesis (List.mem_cons_of_mem _ isLater)).cons _

/-- Splitting loses only the occurrences. -/
theorem joinWith_splitAtPair
    (first second : Char)
    (text : List Char) :
    joinWith [first, second] (splitAtPair first second text) = text := by
  have cons (character : Char) (piece : List Char) (others) :
      joinWith [first, second] ((character :: piece) :: others) =
        character :: joinWith [first, second] (piece :: others) := by
    cases others <;> simp [joinWith]
  induction text using pair_induction first second with
  | nil => rfl
  | pair rest inductionHypothesis =>
      rw [splitAtPair_pair, joinWith, inductionHypothesis]
      · rfl
      · exact splitAtPair_ne_nil first second rest
  | other character rest noPair inductionHypothesis =>
      obtain ⟨piece, others, isSplit⟩ :=
        List.exists_cons_of_ne_nil (splitAtPair_ne_nil first second rest)
      rw [splitAtPair_cons noPair isSplit, cons, ← isSplit,
        inductionHypothesis]

/-- A character of no occurrence joins two pieces. -/
theorem length_splitAtPair_append
    {character : Char}
    (noFirst : character ≠ first)
    (noSecond : character ≠ second)
    (before after : List Char) :
    (splitAtPair first second (before ++ character :: after)).length + 1 =
      (splitAtPair first second before).length +
        (splitAtPair first second after).length := by
  induction before using pair_induction first second
  with
  | nil =>
      obtain ⟨piece, others, isSplit⟩ :=
        List.exists_cons_of_ne_nil (splitAtPair_ne_nil first second after)
      rw [List.nil_append, splitAtPair_cons (by simp [noFirst]) isSplit,
        isSplit, splitAtPair]
      simp only [List.length_cons, List.length_nil]
      omega
  | pair rest inductionHypothesis =>
      rw [List.cons_append, List.cons_append, splitAtPair_pair,
        splitAtPair_pair, List.length_cons, List.length_cons]
      omega
  | other other rest noPair inductionHypothesis =>
      obtain ⟨piece, others, isSplit⟩ :=
        List.exists_cons_of_ne_nil (splitAtPair_ne_nil first second rest)
      obtain ⟨longer, more, isLonger⟩ :=
        List.exists_cons_of_ne_nil
          (splitAtPair_ne_nil first second (rest ++ character :: after))
      have stillNone :
          ¬ (other = first ∧
            (rest ++ character :: after).head? = some second) := by
        cases rest with
        | nil => simp [noSecond]
        | cons next following => exact noPair
      rw [isSplit, isLonger] at inductionHypothesis
      rw [List.cons_append, splitAtPair_cons noPair isSplit,
        splitAtPair_cons stillNone isLonger]
      exact inductionHypothesis

/-- Other characters make no difference. -/
theorem splitAtPair_map
    {change : Char → Char}
    (isFirst : ∀ character, change character = first ↔ character = first)
    (isSecond : ∀ character, change character = second ↔ character = second)
    (text : List Char) :
    splitAtPair first second (text.map change) =
      (splitAtPair first second text).map (List.map change) := by
  induction text using pair_induction first second with
  | nil => rfl
  | pair rest inductionHypothesis =>
      rw [List.map_cons, List.map_cons, (isFirst first).mpr rfl,
        (isSecond second).mpr rfl, splitAtPair_pair, splitAtPair_pair,
        inductionHypothesis]
      rfl
  | other character rest noPair inductionHypothesis =>
      obtain ⟨piece, others, isSplit⟩ :=
        List.exists_cons_of_ne_nil (splitAtPair_ne_nil first second rest)
      have stillNone :
          ¬ (change character = first ∧
            (rest.map change).head? = some second) := by
        simpa [isFirst, isSecond] using noPair
      rw [isSplit] at inductionHypothesis
      rw [List.map_cons, splitAtPair_cons noPair isSplit,
        splitAtPair_cons stillNone inductionHypothesis]
      rfl

/-- A text is one piece exactly if the two characters do not occur in it. -/
theorem length_splitAtPair_eq_one_iff (text : List Char) :
    (splitAtPair first second text).length = 1 ↔
      occursIn [first, second] text = false := by
  induction text using pair_induction first second with
  | nil => simp [splitAtPair, occursIn]
  | pair rest inductionHypothesis =>
      have here :
          occursIn [first, second] (first :: second :: rest) = true := by
        simp [occursIn]
      have later := splitAtPair_ne_nil first second rest
      rw [here, splitAtPair_pair, List.length_cons]
      simp [later]
  | other character rest noPair inductionHypothesis =>
      obtain ⟨piece, others, isSplit⟩ :=
        List.exists_cons_of_ne_nil (splitAtPair_ne_nil first second rest)
      have notHere :
          [first, second].isPrefixOf (character :: rest) = false := by
        rw [Bool.eq_false_iff, ne_eq, List.isPrefixOf_iff_prefix]
        rintro ⟨after, same⟩
        cases same
        exact noPair ⟨rfl, rfl⟩
      rw [isSplit] at inductionHypothesis
      rw [splitAtPair_cons noPair isSplit, occursIn, notHere, Bool.false_or]
      exact inductionHypothesis

end Pairs

/-- The lines that a text is displayed on: each hard line break in it ends
one. -/
def displayedLines (text : List Char) : List (List Char) :=
  splitAtPair '\\' 'N' text

/-- The number of hard line breaks in a text. -/
def breakCount (text : List Char) : Nat :=
  (displayedLines text).length - 1

theorem length_displayedLines (text : List Char) :
    (displayedLines text).length = breakCount text + 1 := by
  have positive : 0 < (displayedLines text).length :=
    List.length_pos_iff.mpr (splitAtPair_ne_nil _ _ text)
  unfold breakCount
  omega

theorem breakCount_eq_zero_iff (text : List Char) :
    breakCount text = 0 ↔ occursIn ['\\', 'N'] text = false := by
  rw [← length_splitAtPair_eq_one_iff, ← displayedLines,
    length_displayedLines]
  omega

/-- A text without hard line breaks is displayed on one line. -/
theorem displayedLines_of_breakCount
    {text : List Char}
    (noBreak : breakCount text = 0) :
    displayedLines text = [text] := by
  have one := length_displayedLines text
  rw [noBreak, List.length_eq_one_iff] at one
  obtain ⟨line, isLine⟩ := one
  have joined := joinWith_splitAtPair '\\' 'N' text
  rw [← displayedLines, isLine, joinWith] at joined
  rw [isLine, joined]

/-- Hard line breaks stand in words. -/
theorem sum_breakCount_words (text : List Char) :
    ((words text).map breakCount).sum = breakCount text := by
  have notFirst {blank : Char} (isBlank : isBlank blank = true) :
      blank ≠ '\\' ∧ blank ≠ 'N' := by
    constructor
    all_goals
      rintro rfl
      cases isBlank
  induction text using blank_induction with
  | solid text solid =>
      by_cases filled : text = []
      · rw [filled]
        rfl
      · simp [words_of_solid filled solid]
  | parted before blank after isBlank ofBefore ofAfter =>
      obtain ⟨noFirst, noSecond⟩ := notFirst isBlank
      have length :
          (displayedLines (before ++ blank :: after)).length + 1 =
            (displayedLines before).length + (displayedLines after).length :=
        length_splitAtPair_append noFirst noSecond before after
      simp only [length_displayedLines] at length
      rw [words_append isBlank, List.map_append, List.sum_append, ofBefore,
        ofAfter]
      omega

/-- Lines have the hard line breaks of their words. -/
theorem sum_breakCount_lines (lines : List (List Char)) :
    (lines.map breakCount).sum =
      ((lines.flatMap words).map breakCount).sum := by
  induction lines with
  | nil => rfl
  | cons line others inductionHypothesis =>
      rw [List.map_cons, List.sum_cons, List.flatMap_cons, List.map_append,
        List.sum_append, sum_breakCount_words, inductionHypothesis]

theorem breakCount_withoutBraces (text : List Char) :
    breakCount (withoutBraces text) = breakCount text := by
  have isMark
      {mark : Char}
      (plain : mark ∉ ['\x7b', '\x7d', '(', ')'])
      (character : Char) :
      (if character = '\x7b' then '('
        else if character = '\x7d' then ')'
        else character) = mark ↔ character = mark := by
    simp only [List.mem_cons, List.not_mem_nil, or_false, not_or] at plain
    obtain ⟨noStart, noEnd, noOpen, noClose⟩ := plain
    split
    · rename_i isStart
      exact iff_of_false (Ne.symm noOpen) (isStart ▸ Ne.symm noStart)
    · split
      · rename_i isEnd
        exact iff_of_false (Ne.symm noClose) (isEnd ▸ Ne.symm noEnd)
      · rfl
  have same :=
    splitAtPair_map (isMark (by decide : '\\' ∉ _))
      (isMark (by decide : 'N' ∉ _)) text
  rw [breakCount, displayedLines, withoutBraces, same, List.length_map]
  rfl

theorem words_withoutBraces_eq_nil_iff (text : List Char) :
    words (withoutBraces text) = [] ↔ words text = [] := by
  have blank : isBlank '(' = false ∧ isBlank ')' = false := by decide
  have braces : isBlank '\x7b' = false ∧ isBlank '\x7d' = false := by decide
  rw [words_eq_nil_iff, words_eq_nil_iff, withoutBraces, List.forall_mem_map]
  refine forall₂_congr fun character _ => ?_
  split
  · rename_i isStart
    rw [isStart, blank.1, braces.1]
  · split
    · rename_i isEnd
      rw [isEnd, blank.2, braces.2]
    · rfl

/-- Lines with hard line breaks between them are displayed as each line is. -/
theorem displayedLines_joinWith
    {lines : List (List Char)}
    (some : lines ≠ []) :
    displayedLines (joinWith ['\\', 'N'] lines) =
      lines.flatMap displayedLines :=
  splitAtPair_joinWith (by decide) some

theorem flatMap_displayedLines
    {lines : List (List Char)}
    (noBreak : (lines.map breakCount).sum = 0) :
    lines.flatMap displayedLines = lines := by
  induction lines with
  | nil => rfl
  | cons line others inductionHypothesis =>
      rw [List.map_cons, List.sum_cons, Nat.add_eq_zero_iff] at noBreak
      rw [List.flatMap_cons, inductionHypothesis noBreak.2,
        displayedLines_of_breakCount noBreak.1, List.singleton_append]

theorem length_flatMap_displayedLines (lines : List (List Char)) :
    (lines.flatMap displayedLines).length =
      lines.length + (lines.map breakCount).sum := by
  induction lines with
  | nil => rfl
  | cons line others inductionHypothesis =>
      rw [List.flatMap_cons, List.length_append, inductionHypothesis,
        length_displayedLines, List.map_cons, List.sum_cons, List.length_cons]
      omega

/-- How the text of a cue is displayed that was wrapped into lines: each of them
on as many lines as it has hard line breaks, and one more. So the wrapped lines
are displayed as they are exactly if the text has words, and none of them has a
hard line break in it. In any case what is displayed fits. -/
structure IsDisplayed
    (limit : Nat)
    (text : List Char)
    (wrapped displayed : List (List Char)) :
    Prop where
  parts :
    words text ≠ [] → displayed = wrapped.flatMap displayedLines
  count :
    displayed.length = max 1 wrapped.length + breakCount text
  same_iff :
    displayed = wrapped ↔
      words text ≠ [] ∧ occursIn ['\\', 'N'] text = false
  fits :
    ∀ line ∈ displayed,
      line.length ≤ limit ∨ ∃ word, words line = [word]

theorem isDisplayed_breakLines
    (limit : Nat)
    (text : List Char) :
    IsDisplayed limit text (wrappedLines limit (withoutBraces text))
      (displayedLines (breakLines limit (withoutBraces text))) := by
  have isBreaking :=
    (isBreaking_filledLines limit
      fun word (isWord : word ∈ words (withoutBraces text)) =>
        words_of_mem isWord).1
  rw [← wrappedLines_eq] at isBreaking
  have breaks :
      ((wrappedLines limit (withoutBraces text)).map breakCount).sum =
        breakCount text := by
    rw [sum_breakCount_lines, isBreaking.parts, sum_breakCount_words,
      breakCount_withoutBraces]
  have noLine_iff :
      wrappedLines limit (withoutBraces text) = [] ↔ words text = [] := by
    rw [wrappedLines_eq_nil_iff, words_withoutBraces_eq_nil_iff]
  rw [breakLines]
  generalize wrappedLines limit (withoutBraces text) = lines at *
  by_cases noLine : lines = []
  · have noWord := noLine_iff.mp noLine
    subst noLine
    exact {
      parts := fun some => absurd noWord some
      count := by rw [← breaks]; rfl
      same_iff := iff_of_false (by simp [joinWith, displayedLines, splitAtPair])
        fun plain => plain.1 noWord
      fits := by
        intro line member
        rw [List.mem_singleton.mp member]
        exact Or.inl (Nat.zero_le limit) }
  · rw [displayedLines_joinWith noLine]
    have count := length_flatMap_displayedLines lines
    rw [breaks] at count
    have same (plain : occursIn ['\\', 'N'] text = false) :
        lines.flatMap displayedLines = lines :=
      flatMap_displayedLines
        (breaks.trans ((breakCount_eq_zero_iff text).mpr plain))
    exact {
      parts := fun _ => rfl
      count := by
        have some : 0 < lines.length := List.length_pos_iff.mpr noLine
        omega
      same_iff := by
        refine ⟨fun isSame => ⟨mt noLine_iff.mpr noLine, ?_⟩,
          fun plain => same plain.2⟩
        rw [isSame] at count
        exact (breakCount_eq_zero_iff text).mp (by omega)
      fits := by
        intro line member
        obtain ⟨whole, isWhole, isPart⟩ := List.mem_flatMap.mp member
        exact (isBreaking.isLine whole isWhole).fits_of_sublist
          (sublist_of_mem_splitAtPair isPart) }

namespace DocumentSetting

/-- What the line of a cue displays: after the times, the fields that all lines
have, and the animation, the wrapped text of the cue. -/
structure Displays
    (setting : DocumentSetting)
    (limit : Nat)
    (markup : String)
    (cue : Cue)
    (line : String) :
    Prop where
  shape :
    ∃ start stop,
      writeTime (cue.start * setting.timeScale) = .ok start ∧
      writeTime (cue.stop * setting.timeScale) = .ok stop ∧
      line =
        "Dialogue: 0," ++ start ++ "," ++ stop ++ ",Default,,0,0,0,," ++
          markup ++ String.ofList (cueText limit cue)
  displayed :
    IsDisplayed limit cue.text.toList
      (wrappedLines limit (withoutBraces cue.text.toList))
      (displayedLines (cueText limit cue))

theorem cueLine_displays
    (setting : DocumentSetting)
    (limit : Nat)
    (markup : String)
    (cue : Cue) :
    (setting.cueLine limit markup cue).Yields
      (setting.Displays limit markup cue) := by
  unfold cueLine
  refine Outcome.Yields.self.bind fun start isStart => ?_
  refine Outcome.Yields.self.bind fun stop isStop => .ok ?_
  exact {
    shape := ⟨start, stop, isStart, isStop, rfl⟩
    displayed := isDisplayed_breakLines limit cue.text.toList }

/-- In a document the text of a cue is displayed on the lines that it was
wrapped into exactly if it has no hard line break of its own; it is displayed on
as many lines more as it has hard line breaks. -/
theorem own_breaks_are_displayed
    {setting : DocumentSetting}
    {cues : List Cue}
    {text : String}
    (made : setting.document cues = .ok text) :
    ∃ limit markup dialogues,
      charactersPerLine setting.width (.integer setting.style.fontSize) =
        .ok limit ∧
      setting.markup = .ok markup ∧
      text =
        String.join ((setting.headLines ++ dialogues).map (· ++ "\n")) ∧
      List.Forall₂ (setting.Displays limit markup) cues dialogues := by
  revert text
  change Outcome.Yields _ (setting.document cues)
  unfold document
  refine Outcome.Yields.self.bind fun limit isLimit => ?_
  refine Outcome.Yields.self.bind fun markup isMarkup => ?_
  refine (Outcome.Yields.mapM cues fun cue _ =>
    cueLine_displays setting limit markup cue).bind fun dialogues displays => ?_
  exact .ok ⟨limit, markup, dialogues, isLimit, isMarkup, rfl, displays⟩

/-- Letters without an animation in an upright frame. -/
def plainSetting : DocumentSetting where
  style := { animation := .none }
  width := .integer 1080
  height := .integer 1920

/-- A cue of two words, with a hard line break in the first one. -/
def brokenCue : Cue where
  start := 0
  stop := 1
  text := "a\\Nb c"

/-- One wrapped line is displayed on two, and a word is divided. -/
theorem written_break_divides_word :
    ∃ text markup dialogues,
      plainSetting.document [brokenCue] = .ok text ∧
      text =
        String.join ((plainSetting.headLines ++ dialogues).map (· ++ "\n")) ∧
      List.Forall₂ (plainSetting.Displays 50 markup) [brokenCue] dialogues ∧
      wrappedLines 50 (withoutBraces brokenCue.text.toList) =
        ["a\\Nb c".toList] ∧
      displayedLines (cueText 50 brokenCue) = ["a".toList, "b c".toList] := by
  have computed :
      (plainSetting.document [brokenCue]).toOption.isSome = true := by
    decide +kernel
  have fifty :
      (charactersPerLine plainSetting.width
        (.integer plainSetting.style.fontSize)).toOption = some 50 := by
    decide +kernel
  cases made : plainSetting.document [brokenCue] with
  | error failure =>
      rw [made] at computed
      cases computed
  | ok text =>
      obtain ⟨limit, markup, dialogues, isLimit, _, whole, displays⟩ :=
        own_breaks_are_displayed made
      rw [isLimit] at fifty
      cases fifty
      exact ⟨text, markup, dialogues, rfl, whole, displays,
        by decide +kernel, by decide +kernel⟩

end DocumentSetting

end Montage
