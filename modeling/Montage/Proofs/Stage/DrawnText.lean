import Montage.Proofs.Text.Writable
import Montage.Render.Lettering

namespace Montage

/-!
# Drawn texts

The drawing filter reads its text file from left to right, where a backslash
and a percent sign are not themselves. What it reads there is the visible part
of the text that was sent, and nothing else: no percent sign expands, and no
backslash takes a character away.
-/

/-! ## What the filter reads -/

/-- A piece of a text file, as the drawing filter reads it. -/
inductive DrawnPiece
  /-- A character that is drawn; of a backslash or a percent sign there were
  two. -/
  | character (value : Char)
  /-- A single percent sign, where an expansion starts. -/
  | expansion
  /-- A single backslash, which takes the character after it. -/
  | escape (taken : Option Char)
deriving DecidableEq, Repr

/-- Read a text file from left to right. -/
def readDrawing : List Char → List DrawnPiece
  | '\\' :: '\\' :: rest => .character '\\' :: readDrawing rest
  | '\\' :: taken :: rest => .escape (some taken) :: readDrawing rest
  | ['\\'] => [.escape none]
  | '%' :: '%' :: rest => .character '%' :: readDrawing rest
  | '%' :: rest => .expansion :: readDrawing rest
  | character :: rest => .character character :: readDrawing rest
  | [] => []

theorem escapeDrawing_cons (character : Char) (rest : List Char) :
    escapeDrawing (character :: rest) =
      (if character = '\\' ∨ character = '%' then
        [character, character]
      else
        [character]) ++ escapeDrawing rest :=
  rfl

theorem readDrawing_cons
    {character : Char}
    (noBackslash : character ≠ '\\')
    (noPercent : character ≠ '%')
    (rest : List Char) :
    readDrawing (character :: rest) =
      .character character :: readDrawing rest := by
  rw [readDrawing]
  all_goals simp_all

/-- What was escaped is read as it was. -/
theorem readDrawing_escapeDrawing (text : List Char) :
    readDrawing (escapeDrawing text) = text.map .character := by
  induction text with
  | nil => rfl
  | cons character rest inductionHypothesis =>
      rw [escapeDrawing_cons, List.map_cons, ← inductionHypothesis]
      by_cases isBackslash : character = '\\'
      · subst isBackslash
        rfl
      by_cases isPercent : character = '%'
      · subst isPercent
        rfl
      rw [if_neg (not_or.mpr ⟨isBackslash, isPercent⟩), List.singleton_append,
        readDrawing_cons isBackslash isPercent]

/-! ## What can be seen of a text -/

/-- Printable ASCII and the Latin letters up to `U+024F`, without the double
quote. -/
def isSeen (character : Char) : Bool :=
  ((' ' ≤ character && character ≤ '~') ||
    ('\u00C0' ≤ character && character ≤ '\u024F')) &&
    character ≠ '"'

/-- A space for each line end, and of the other characters the visible ones. -/
def visibleCharacters : List Char → List Char
  | '\r' :: '\n' :: rest => ' ' :: visibleCharacters rest
  | '\n' :: rest => ' ' :: visibleCharacters rest
  | character :: rest =>
      if isSeen character then
        character :: visibleCharacters rest
      else
        visibleCharacters rest
  | [] => []

/-- What can be seen of a text, without blanks around it. -/
def visibleText (text : String) : List Char :=
  trim (visibleCharacters text.toList)

/-- Codes that control a device and stand for no letter. -/
def isControlCode (character : Char) : Bool :=
  character.toNat < 0x20 ||
    (0x7F ≤ character.toNat && character.toNat < 0xA0)

theorem isSeen_eq (character : Char) :
    isSeen character = (isDrawable character && character ≠ '"') := by
  simp only [isSeen, isDrawable, Char.le_def, UInt32.le_iff_toNat_le]
  rfl

/-- Nothing that is drawn controls a device or ends a line. -/
theorem plain_of_isDrawable
    {character : Char}
    (drawable : isDrawable character = true) :
    isControlCode character = false ∧ isLineBreak character = false := by
  simp only [isDrawable, Bool.or_eq_true, Bool.and_eq_true,
    decide_eq_true_eq] at drawable
  simp only [isControlCode, isLineBreak, Bool.or_eq_false_iff,
    Bool.and_eq_false_iff, decide_eq_false_iff_not, beq_eq_false_iff_ne]
  omega

section LineEnds

variable (rest : List Char)

theorem withoutLineEnds_pair :
    withoutLineEnds ('\r' :: '\n' :: rest) = ' ' :: withoutLineEnds rest := by
  simp [withoutLineEnds, replacePair, replaceChar]

theorem withoutLineEnds_newline :
    withoutLineEnds ('\n' :: rest) = ' ' :: withoutLineEnds rest := by
  cases rest <;> simp [withoutLineEnds, replacePair, replaceChar]

theorem withoutLineEnds_cons
    {character : Char}
    (noPair : ∀ others, character = '\r' → rest ≠ '\n' :: others)
    (noNewline : character ≠ '\n') :
    withoutLineEnds (character :: rest) =
      character :: withoutLineEnds rest := by
  cases rest with
  | nil => simp [withoutLineEnds, replacePair, replaceChar, noNewline]
  | cons next others =>
      have apart : ¬ (character = '\r' ∧ next = '\n') := by
        rintro ⟨isReturn, rfl⟩
        exact noPair others isReturn rfl
      simp [withoutLineEnds, replacePair, replaceChar, apart, noNewline]

end LineEnds

/-- The characters that remain of a text are the visible ones. -/
theorem drawableText_eq (text : List Char) :
    drawableText text = visibleCharacters text := by
  have space : isSeen ' ' = true := by decide
  have kept : drawableText text = (withoutLineEnds text).filter isSeen :=
    List.filter_congr fun character _ => (isSeen_eq character).symm
  rw [kept]
  fun_induction visibleCharacters text with
  | case1 rest inductionHypothesis =>
      rw [withoutLineEnds_pair, List.filter_cons_of_pos space,
        inductionHypothesis rfl]
  | case2 rest inductionHypothesis =>
      rw [withoutLineEnds_newline, List.filter_cons_of_pos space,
        inductionHypothesis rfl]
  | case3 character rest noPair noNewline visible inductionHypothesis =>
      rw [withoutLineEnds_cons rest noPair noNewline,
        List.filter_cons_of_pos visible, inductionHypothesis rfl]
  | case4 character rest noPair noNewline hidden inductionHypothesis =>
      rw [withoutLineEnds_cons rest noPair noNewline,
        List.filter_cons_of_neg hidden, inductionHypothesis rfl]
  | case5 => rfl

/-! ## Blanks around a text -/

/-- No blank is escaped, so as many of them stand in front. -/
theorem dropWhile_escapeDrawing (text : List Char) :
    (escapeDrawing text).dropWhile isBlank =
      escapeDrawing (text.dropWhile isBlank) := by
  induction text with
  | nil => rfl
  | cons character rest inductionHypothesis =>
      rw [escapeDrawing_cons]
      by_cases blank : isBlank character = true
      · have unescaped : ¬ (character = '\\' ∨ character = '%') := by
          rintro (rfl | rfl) <;> revert blank <;> decide
        rw [if_neg unescaped, List.singleton_append,
          List.dropWhile_cons_of_pos blank, List.dropWhile_cons_of_pos blank,
          inductionHypothesis]
      · rw [List.dropWhile_cons_of_neg blank, escapeDrawing_cons]
        split <;> exact List.dropWhile_cons_of_neg blank

/-- Escapes read alike from both ends. -/
theorem reverse_escapeDrawing (text : List Char) :
    (escapeDrawing text).reverse = escapeDrawing text.reverse := by
  unfold escapeDrawing
  rw [List.reverse_flatMap]
  congr 1
  funext character
  simp only [Function.comp_apply]
  split <;> rfl

theorem trim_escapeDrawing (text : List Char) :
    trim (escapeDrawing text) = escapeDrawing (trim text) := by
  simp only [trim, trimWhere, dropWhile_escapeDrawing, reverse_escapeDrawing]

/-- What is written for the drawing filter is the visible text, escaped. -/
theorem toList_drawingText (text : String) :
    (drawingText text).toList = escapeDrawing (visibleText text) := by
  rw [drawingText, String.toList_ofList, trim_escapeDrawing, drawableText_eq,
    visibleText]

theorem escapeDrawing_eq_nil_iff (text : List Char) :
    escapeDrawing text = [] ↔ text = [] := by
  cases text with
  | nil => exact iff_of_true rfl rfl
  | cons character rest =>
      refine iff_of_false ?_ (List.cons_ne_nil _ _)
      rw [escapeDrawing_cons]
      split <;> simp

/-! ## Characters that are written -/

theorem isDrawable_of_mem_visibleText
    {text : String}
    {character : Char}
    (member : character ∈ visibleText text) :
    isDrawable character = true := by
  have inside : character ∈ drawableText text.toList := by
    rw [drawableText_eq]
    have inTrimmed :=
      (List.dropWhile_sublist _).subset (List.mem_reverse.mp member)
    exact (List.dropWhile_sublist _).subset (List.mem_reverse.mp inTrimmed)
  have kept := (List.mem_filter.mp inside).2
  rw [Bool.and_eq_true] at kept
  exact kept.1

/-- Escapes bring no characters of their own. -/
theorem isDrawable_of_mem_drawingText
    {text : String}
    {character : Char}
    (member : character ∈ (drawingText text).toList) :
    isDrawable character = true := by
  rw [toList_drawingText] at member
  obtain ⟨visible, isInside, isEscaped⟩ := List.mem_flatMap.mp member
  have same : character = visible := by
    split at isEscaped <;> simpa using isEscaped
  rw [same]
  exact isDrawable_of_mem_visibleText isInside

/-- What is drawn is of characters that can be written. -/
theorem drawingText_writable (text : String) :
    IsWritable (drawingText text).toList := by
  intro character member
  have drawable := isDrawable_of_mem_drawingText member
  apply isLoneSurrogate_of_lt
  simp only [isDrawable, Bool.or_eq_true, Bool.and_eq_true,
    decide_eq_true_eq] at drawable
  omega

/-! ## The stage of a text -/

/-- Write the file of a text, and then make its filter. -/
def writtenStages
    (overlay : TextOverlay)
    (fontFile : String)
    (file : Path) :
    JobProgram (List Filter) := do
  JobProgram.attempt <|
    Program.perform (.writeFile file (bytesOf (drawingText overlay.text)))
  pure [overlay.drawingFilter fontFile file.toText]

/-- A program that writes a file is not over at once. -/
theorem writtenStages_ne_pure
    (overlay : TextOverlay)
    (fontFile : String)
    (file : Path)
    (stages : List Filter) :
    writtenStages overlay fontFile file ≠ pure stages := by
  intro same
  have started :=
    congrArg (·.start { workspace := { root := file, jobId := "" } }) same
  cases started

/-- Nothing is done for a text of which nothing can be seen. -/
theorem drawnStages_eq
    (overlay : TextOverlay)
    (fontFile : String)
    (file : Path) :
    drawnStages overlay fontFile file =
      if visibleText overlay.text = [] then
        pure []
      else
        writtenStages overlay fontFile file := by
  have isEmpty_iff :
      (drawingText overlay.text).isEmpty = true ↔
        visibleText overlay.text = [] := by
    rw [String.isEmpty_iff, ← String.toList_eq_nil_iff, toList_drawingText,
      escapeDrawing_eq_nil_iff]
  have writable :
      firstSurrogates? (drawingText overlay.text).toList = none :=
    firstSurrogates?_eq_none_iff.mpr (drawingText_writable overlay.text)
  unfold drawnStages TextOverlay.drawnText?
  by_cases nothing : visibleText overlay.text = []
  · simp only [isEmpty_iff.mpr nothing, nothing, ↓reduceIte]
  · have filled : (drawingText overlay.text).isEmpty = false :=
      Bool.eq_false_iff.mpr fun isEmpty => nothing (isEmpty_iff.mp isEmpty)
    simp only [filled, nothing, Bool.false_eq_true, ↓reduceIte, writeText,
      writable, writtenStages]

/--
Every text is read from its file as what can be seen of it, character by
character; the file holds no line end and no control code. The stage of a text
does nothing exactly if nothing can be seen of it; otherwise it writes the file
and gives the filter.
-/
theorem drawn_text_is_read_as_what_is_visible :
    (∀ text : String,
      readDrawing (drawingText text).toList =
        (visibleText text).map .character ∧
      ∀ character ∈ (drawingText text).toList,
        isControlCode character = false ∧ isLineBreak character = false) ∧
    ∀ (overlay : TextOverlay) (fontFile : String) (file : Path),
      (drawnStages overlay fontFile file = pure [] ↔
        visibleText overlay.text = []) ∧
      drawnStages overlay fontFile file =
        if visibleText overlay.text = [] then
          pure []
        else
          writtenStages overlay fontFile file := by
  constructor
  · intro text
    refine ⟨?_, fun character member => ?_⟩
    · rw [toList_drawingText, readDrawing_escapeDrawing]
    · exact plain_of_isDrawable (isDrawable_of_mem_drawingText member)
  · intro overlay fontFile file
    refine ⟨?_, drawnStages_eq overlay fontFile file⟩
    rw [drawnStages_eq]
    split
    · rename_i nothing
      exact iff_of_true rfl nothing
    · rename_i filled
      exact iff_of_false (writtenStages_ne_pure overlay fontFile file [])
        filled

/-- Runs of backslashes and percent signs are read as they were sent. -/
example :
    readDrawing (drawingText " 50%%\r\n\\%\t\"é\" ").toList =
      ['5', '0', '%', '%', ' ', '\\', '%', 'é'].map .character := by
  decide +kernel

end Montage
