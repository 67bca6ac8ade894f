import Mathlib.Data.List.Forall2
import Montage.Graph.Basic
import Montage.Proofs.Number.Characters

namespace Montage

/-!
# Marks of graph text

At the graph level a character after a backslash or between quotes has no
meaning of its own. Every value reads as marks that separate nothing, and their
characters are what its filter is to read.
-/

/-- A character of graph text: a bare one may separate, a literal one does
not. -/
inductive Mark
  | bare (character : Char)
  | literal (character : Char)
deriving DecidableEq

/-- The character of a mark. -/
def Mark.character : Mark → Char
  | bare character => character
  | literal character => character

/-- Where the next character of a graph text stands. -/
inductive Quoting
  | outside
  | escaped
  | quoted

/-- Take quotes and backslashes out of a text, which has none that is open at
the end. -/
def readMarks : Quoting → List Char → Option (List Mark)
  | .outside, [] => some []
  | .escaped, [] => none
  | .quoted, [] => none
  | .outside, character :: rest =>
      if character = '\\' then
        readMarks .escaped rest
      else if character = '\'' then
        readMarks .quoted rest
      else
        (readMarks .outside rest).map (Mark.bare character :: ·)
  | .escaped, character :: rest =>
      (readMarks .outside rest).map (Mark.literal character :: ·)
  | .quoted, character :: rest =>
      if character = '\'' then
        readMarks .outside rest
      else
        (readMarks .quoted rest).map (Mark.literal character :: ·)

/-- The text of marks. -/
def markedText (marks : List Mark) : String :=
  String.ofList (marks.map Mark.character)

/-- The characters that have a meaning in graph text. -/
def graphSyntax : List Char :=
  ['\\', '\'', ',', ';', '[', ']']

/-- Whether a character has a meaning in graph text. -/
def isGraphSyntax (character : Char) : Bool :=
  graphSyntax.contains character

/-- A text without characters that have a meaning in graph text. -/
def IsClear (text : String) : Prop :=
  ∀ character ∈ text.toList, isGraphSyntax character = false

instance (text : String) : Decidable (IsClear text) :=
  List.decidableBAll (isGraphSyntax · = false) text.toList

/-- A value that can be read: any, but for expressions with a quote. -/
def OptionValue.IsLegible : OptionValue → Prop
  | expression value => '\'' ∉ value.toList
  | _ => True

/-- A value as the filter reads it: what separates options is escaped in texts
and paths, and expressions and numbers stand as they are. -/
def OptionValue.optionText : OptionValue → List Char
  | text value => escapeOption value.toList
  | path value => escapePath value.toList
  | expression value => value.toList
  | integer value => integerText value
  | number value => plainNumber value
  | flag value => if value then ['1'] else ['0']

/-- Marks none of which separates at the graph level. -/
def Quiet (marks : List Mark) : Prop :=
  ∀ character, isGraphSyntax character = true → .bare character ∉ marks

namespace Quiet

variable {marks others : List Mark} {text : List Char}

theorem literal
    (text : List Char) :
    Quiet (text.map .literal) := by
  intro character _ member
  obtain ⟨other, _, same⟩ := List.mem_map.mp member
  cases same

theorem bare
    (clear : ∀ character ∈ text, isGraphSyntax character = false) :
    Quiet (text.map .bare) := by
  intro character isSyntax member
  obtain ⟨other, isOther, same⟩ := List.mem_map.mp member
  cases same
  rw [clear character isOther] at isSyntax
  cases isSyntax

theorem append
    (first : Quiet marks)
    (second : Quiet others) :
    Quiet (marks ++ others) := by
  intro character isSyntax member
  rcases List.mem_append.mp member with inFirst | inSecond
  · exact first character isSyntax inFirst
  · exact second character isSyntax inSecond

theorem bare_singleton
    {character : Char}
    (clear : isGraphSyntax character = false) :
    Quiet [.bare character] := by
  have only : ∀ other ∈ [character], isGraphSyntax other = false := by
    simpa using clear
  exact bare only

theorem cons
    {character : Char}
    (clear : isGraphSyntax character = false)
    (rest : Quiet marks) :
    Quiet (.bare character :: marks) :=
  (bare_singleton clear).append rest

end Quiet

/-! ## Marks of texts -/

/-- Wherever a text stands outside of quotes, it reads as marks. -/
def Reads (text : List Char) (marks : List Mark) : Prop :=
  ∀ rest,
    readMarks .outside (text ++ rest) =
      (readMarks .outside rest).map (marks ++ ·)

namespace Reads

variable {text other : List Char} {marks others : List Mark}

theorem nil : Reads [] [] := by
  intro rest
  simp

theorem append
    (first : Reads text marks)
    (second : Reads other others) :
    Reads (text ++ other) (marks ++ others) := by
  intro rest
  rw [List.append_assoc, first, second, Option.map_map]
  simp [Function.comp_def]

theorem bare_singleton
    {character : Char}
    (noBackslash : character ≠ '\\')
    (noQuote : character ≠ '\'') :
    Reads [character] [.bare character] := by
  intro rest
  simp [readMarks, noBackslash, noQuote]

/-- A text without backslashes and quotes is bare. -/
theorem bare
    (noBackslash : '\\' ∉ text)
    (noQuote : '\'' ∉ text) :
    Reads text (text.map .bare) := by
  induction text with
  | nil => exact nil
  | cons character text inductionHypothesis =>
      rw [List.mem_cons, not_or] at noBackslash noQuote
      exact (bare_singleton (Ne.symm noBackslash.1)
        (Ne.symm noQuote.1)).append
          (inductionHypothesis noBackslash.2 noQuote.2)

/-- Between quotes a text is literal up to the next quote. -/
theorem readMarks_quoted
    (noQuote : '\'' ∉ text)
    (rest : List Char) :
    readMarks .quoted (text ++ '\'' :: rest) =
      (readMarks .outside rest).map (text.map .literal ++ ·) := by
  induction text with
  | nil => simp [readMarks]
  | cons character text inductionHypothesis =>
      rw [List.mem_cons, not_or] at noQuote
      have isOther : character ≠ '\'' := Ne.symm noQuote.1
      simp [readMarks, isOther, inductionHypothesis noQuote.2,
        Function.comp_def]

theorem quoted
    (noQuote : '\'' ∉ text) :
    Reads ('\'' :: text ++ ['\'']) (text.map .literal) := by
  intro rest
  have opens : '\'' ≠ '\\' := by decide
  simp [readMarks, readMarks_quoted noQuote]

/-- A value in quotes is literal, also where it has quotes itself. -/
theorem quoteValue
    (text : List Char) :
    Reads (quoteValue text) (text.map .literal) := by
  intro rest
  have inside :
      readMarks .quoted
          (replaceChar '\'' ['\'', '\\', '\'', '\''] text ++ '\'' :: rest) =
        (readMarks .outside rest).map (text.map .literal ++ ·) := by
    induction text with
    | nil => simp [replaceChar, readMarks]
    | cons character text inductionHypothesis =>
        unfold replaceChar at inductionHypothesis ⊢
        by_cases isQuote : character = '\''
        · simp [isQuote, readMarks, inductionHypothesis, Function.comp_def]
        · simp [isQuote, readMarks, inductionHypothesis, Function.comp_def]
  simpa [Montage.quoteValue, readMarks] using inside

theorem flatMap
    {α : Type}
    {items : List α}
    {write : α → List Char}
    {mark : α → List Mark}
    (reads : ∀ item ∈ items, Reads (write item) (mark item)) :
    Reads (items.flatMap write) (items.flatMap mark) := by
  induction items with
  | nil => exact nil
  | cons item rest inductionHypothesis =>
      rw [List.forall_mem_cons] at reads
      exact reads.1.append (inductionHypothesis reads.2)

/-- What stands between texts stands between their marks. -/
theorem joinWith
    {separator : Char}
    (noBackslash : separator ≠ '\\')
    (noQuote : separator ≠ '\'')
    {texts : List (List Char)}
    {marked : List (List Mark)}
    (reads : List.Forall₂ Reads texts marked) :
    Reads (joinWith [separator] texts)
      ([Mark.bare separator].intercalate marked) := by
  induction reads with
  | nil => exact nil
  | @cons text marks texts marked first rest inductionHypothesis =>
      cases rest with
      | nil => simpa [Montage.joinWith] using first
      | cons second others =>
          rw [List.intercalate_cons_cons]
          exact (first.append (bare_singleton noBackslash noQuote)).append
            inductionHypothesis

end Reads

/-- A property that no syntax has tells other characters. -/
theorem isGraphSyntax_eq_false
    (property : Char → Bool)
    (noSyntax : graphSyntax.any property = false)
    {character : Char}
    (holds : property character = true) :
    isGraphSyntax character = false := by
  by_contra isSyntax
  rw [Bool.not_eq_false] at isSyntax
  exact List.any_eq_false.mp noSyntax character
    (List.contains_iff_mem.mp isSyntax) holds

theorem IsNumeric.clear
    {text : List Char}
    (numeric : IsNumeric text) :
    ∀ character ∈ text, isGraphSyntax character = false :=
  fun character member =>
    isGraphSyntax_eq_false isNumeric (by decide) (numeric character member)

theorem plainNumber_isNumeric
    (number : Binary64) :
    IsNumeric (plainNumber number) := by
  cases number with
  | nan => exact IsNumeric.nanText
  | infinite negative => exact IsNumeric.infinityText negative
  | finite negative units representable =>
      obtain ⟨whole, fraction⟩ :=
        IsNumeric.splitPlaces 6
          (roundHalfEven (units * powerOfTen 6) unitsPerOne)
      exact (whole.joinPlaces fraction.dropTrailingZeros).withSign _

/-- A text without graph syntax reads as it is. -/
theorem Reads.of_clear
    {text : List Char}
    (clear : ∀ character ∈ text, isGraphSyntax character = false) :
    Reads text (text.map .bare) := by
  apply Reads.bare
  · intro member
    exact absurd (clear _ member) (by decide)
  · intro member
    exact absurd (clear _ member) (by decide)

namespace IsClear

theorem append
    {text other : String}
    (first : IsClear text)
    (second : IsClear other) :
    IsClear (text ++ other) := by
  intro character member
  rw [String.toList_append, List.mem_append] at member
  rcases member with inFirst | inSecond
  · exact first character inFirst
  · exact second character inSecond

theorem of_isNumeric
    {text : List Char}
    (numeric : IsNumeric text) :
    IsClear (String.ofList text) := by
  intro character member
  rw [String.toList_ofList] at member
  exact numeric.clear character member

end IsClear

/-! ## Marks of values -/

/-- The marks of a value. -/
def OptionValue.marks : OptionValue → List Mark
  | text value =>
      if value.toList.any isGraphSpecial then
        (escapeOption value.toList).map .literal
      else
        value.toList.map .bare
  | path value => (escapePath value.toList).map .literal
  | expression value => value.toList.map .literal
  | integer value => (integerText value).map .bare
  | number value => (plainNumber value).map .bare
  | flag value => [.bare (if value then '1' else '0')]

namespace OptionValue

/-- A text that is not quoted has nothing that must be. -/
theorem escapeOption_eq_self
    {text : List Char}
    (plain : text.any isGraphSpecial = false) :
    escapeOption text = text := by
  rw [List.any_eq_false] at plain
  induction text with
  | nil => rfl
  | cons character rest inductionHypothesis =>
      have noEscape :
          ¬ (character = '\\' ∨ character = '\'' ∨ character = ':') := by
        rintro (rfl | rfl | rfl) <;>
          exact plain _ List.mem_cons_self (by decide)
      have others :=
        inductionHypothesis fun other member =>
          plain other (List.mem_cons_of_mem _ member)
      unfold escapeOption at others ⊢
      rw [List.flatMap_cons, others, if_neg noEscape]
      rfl

/-- A text is quoted, or it has nothing that is special. -/
theorem text_cases
    (value : String) :
    ((text value).render = quoteValue (escapeOption value.toList) ∧
      (text value).marks = (escapeOption value.toList).map .literal) ∨
    ((text value).render = value.toList ∧
      (text value).marks = value.toList.map .bare ∧
      escapeOption value.toList = value.toList ∧
      ∀ character ∈ value.toList, isGraphSyntax character = false) := by
  cases special : value.toList.any isGraphSpecial with
  | true => simp [render, marks, special]
  | false =>
      refine .inr ⟨by simp [render, special], by simp [marks, special],
        escapeOption_eq_self special, ?_⟩
      intro character member
      rw [List.any_eq_false] at special
      apply isGraphSyntax_eq_false (fun other => !isGraphSpecial other)
        (by decide)
      simpa using special character member

theorem reads_marks
    {value : OptionValue}
    (legible : value.IsLegible) :
    Reads value.render value.marks := by
  cases value with
  | text value =>
      rcases text_cases value with
        ⟨written, marked⟩ | ⟨written, marked, _, clear⟩
      · rw [written, marked]
        exact .quoteValue _
      · rw [written, marked]
        exact .of_clear clear
  | path value => exact .quoteValue _
  | expression value => exact .quoted legible
  | integer value => exact .of_clear (IsNumeric.integerText value).clear
  | number value => exact .of_clear (plainNumber_isNumeric value).clear
  | flag value =>
      cases value <;> exact .bare_singleton (by decide) (by decide)

theorem map_character_marks
    (value : OptionValue) :
    value.marks.map Mark.character = value.optionText := by
  cases value with
  | text value =>
      rcases text_cases value with ⟨_, marked⟩ | ⟨_, marked, same, _⟩
      · simp [marked, optionText, Function.comp_def, Mark.character]
      · simp [marked, optionText, same, Function.comp_def, Mark.character]
  | flag value => cases value <;> rfl
  | _ => simp [marks, optionText, Function.comp_def, Mark.character]

theorem marks_quiet
    (value : OptionValue) :
    Quiet value.marks := by
  cases value with
  | text value =>
      rcases text_cases value with ⟨_, marked⟩ | ⟨_, marked, _, clear⟩
      · rw [marked]
        exact .literal _
      · rw [marked]
        exact .bare clear
  | path value => exact .literal _
  | expression value => exact .literal _
  | integer value => exact .bare (IsNumeric.integerText value).clear
  | number value => exact .bare (plainNumber_isNumeric value).clear
  | flag value => cases value <;> exact .bare_singleton (by decide)

end OptionValue

/-! ## The second reading -/

/-- The mark of a character of a text when its filter reads it: what separates
options is literal. -/
def optionMark (character : Char) : Mark :=
  if character = '\\' ∨ character = '\'' ∨ character = ':' then
    .literal character
  else
    .bare character

/-- The mark of a character of a path, where a slash stands for a backslash. -/
def pathMark (character : Char) : Mark :=
  if character = '\\' then
    .bare '/'
  else if character = ':' ∨ character = '\'' then
    .literal character
  else
    .bare character

theorem Reads.escapeOption
    (text : List Char) :
    Reads (escapeOption text) (text.map optionMark) := by
  rw [List.map_eq_flatMap]
  apply Reads.flatMap
  intro character _
  unfold optionMark
  split
  · intro rest
    simp [readMarks]
  · rename_i plain
    simp only [not_or] at plain
    exact .bare_singleton plain.1 plain.2.1

theorem Reads.escapePath
    (path : List Char) :
    Reads (escapePath path) (path.map pathMark) := by
  rw [List.map_eq_flatMap]
  apply Reads.flatMap
  intro character _
  unfold pathMark
  split
  · exact .bare_singleton (by decide) (by decide)
  · rename_i noBackslash
    split
    · intro rest
      simp [readMarks]
    · rename_i plain
      rw [not_or] at plain
      exact .bare_singleton noBackslash plain.2

/-- Marks tell a value, and separate no options. -/
structure Tells
    (text : List Char)
    (marks : List Mark)
    (told : String) :
    Prop where
  reads : Reads text marks
  characters : markedText marks = told
  noColon : .bare ':' ∉ marks

/-- A text without backslashes, quotes and colons tells itself. -/
theorem Tells.bare
    {text : List Char}
    (lacks : ∀ character ∈ ['\\', '\'', ':'], character ∉ text) :
    Tells text (text.map .bare) (String.ofList text) where
  reads :=
    .bare (lacks '\\' (by simp)) (lacks '\'' (by simp))
  characters := by
    simp [markedText, Function.comp_def, Mark.character]
  noColon := by
    intro member
    obtain ⟨character, isCharacter, same⟩ := List.mem_map.mp member
    cases same
    exact lacks ':' (by simp) isCharacter

/-- Characters that are marked one by one tell what their marks are of. -/
theorem Tells.map
    {text characters : List Char}
    {mark : Char → Mark}
    (reads : Reads text (characters.map mark))
    (noColon : ∀ character, mark character ≠ .bare ':') :
    Tells text (characters.map mark)
      (String.ofList
        (characters.map fun character => (mark character).character)) where
  reads := reads
  characters := by simp [markedText, Function.comp_def]
  noColon := by
    intro member
    obtain ⟨character, _, isColon⟩ := List.mem_map.mp member
    exact noColon character isColon

theorem IsNumeric.lacks
    {text : List Char}
    (numeric : IsNumeric text) :
    ∀ character ∈ ['\\', '\'', ':'], character ∉ text := by
  have noNumber : ['\\', '\'', ':'].any isNumeric = false := by decide
  intro character isSpecial member
  exact List.any_eq_false.mp noNumber character isSpecial
    (numeric character member)

namespace OptionValue

/-- What a filter is told by a value: a text or an expression itself, a path
with slashes for its backslashes, and a number as it is written. -/
def told : OptionValue → String
  | text value => value
  | expression value => value
  | path value =>
      String.ofList <| value.toList.map fun character =>
        if character = '\\' then '/' else character
  | integer value => String.ofList (integerText value)
  | number value => String.ofList (plainNumber value)
  | flag value => if value then "1" else "0"

/-- A value that both levels can read: any, but for expressions with a
backslash, a quote or a colon. -/
def IsReadable : OptionValue → Prop
  | expression value =>
      ∀ character ∈ ['\\', '\'', ':'], character ∉ value.toList
  | _ => True

/-- The marks of a value when its filter reads it. -/
def innerMarks : OptionValue → List Mark
  | text value => value.toList.map optionMark
  | path value => value.toList.map pathMark
  | value => value.optionText.map .bare

instance : DecidablePred IsReadable
  | expression value =>
      List.decidableBAll (· ∉ value.toList) ['\\', '\'', ':']
  | text _ => isTrue trivial
  | path _ => isTrue trivial
  | integer _ => isTrue trivial
  | number _ => isTrue trivial
  | flag _ => isTrue trivial

theorem IsReadable.isLegible
    {value : OptionValue}
    (readable : value.IsReadable) :
    value.IsLegible := by
  cases value with
  | expression value => exact readable '\'' (by simp)
  | _ => trivial

theorem tells_text (value : String) :
    Tells (text value).optionText (text value).innerMarks value := by
  have noColon (character : Char) : optionMark character ≠ .bare ':' := by
    unfold optionMark
    split
    · simp
    · rename_i plain
      simp only [not_or] at plain
      simpa using plain.2.2
  have same (character : Char) :
      (optionMark character).character = character := by
    unfold optionMark
    split <;> rfl
  have tells := Tells.map (.escapeOption value.toList) noColon
  simp only [same, List.map_id', String.ofList_toList] at tells
  exact tells

theorem tells_path (value : String) :
    Tells (path value).optionText (path value).innerMarks
      (path value).told := by
  have noColon (character : Char) : pathMark character ≠ .bare ':' := by
    unfold pathMark
    split
    · simp
    · split
      · simp
      · rename_i plain
        simp only [not_or] at plain
        simpa using plain.1
  have same (character : Char) :
      (pathMark character).character =
        if character = '\\' then '/' else character := by
    unfold pathMark
    split
    · rfl
    · split <;> rfl
  have tells := Tells.map (.escapePath value.toList) noColon
  simp only [same] at tells
  exact tells

/-- A value comes back from its second reading. -/
theorem tells
    {value : OptionValue}
    (readable : value.IsReadable) :
    Tells value.optionText value.innerMarks value.told := by
  cases value with
  | text value => exact tells_text value
  | path value => exact tells_path value
  | expression value =>
      have tells := Tells.bare readable
      rwa [String.ofList_toList] at tells
  | integer value => exact .bare (IsNumeric.integerText value).lacks
  | number value => exact .bare (plainNumber_isNumeric value).lacks
  | flag value =>
      cases value
      · exact .bare (by decide : IsNumeric ['0']).lacks
      · exact .bare (by decide : IsNumeric ['1']).lacks

end OptionValue

end Montage
