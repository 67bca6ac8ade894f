import Montage.Proofs.Expression.Reading

namespace Montage

/-!
# Expressions with numbers that were printed

The text of an expression holds numbers that are known only when it is made.
It is read token by token, whatever these numbers are: a printed number is a
numeral in front of every mark that can follow an operand.
-/

/-! ## Texts of single tokens -/

/-- The marks that can follow an operand. -/
def isDelimiter (character : Char) : Bool :=
  ['+', '-', '*', '/', ')', ','].contains character

/-- A text that no operand in front of it goes on with. -/
def IsDelimited (text : List Char) : Prop :=
  ∀ character ∈ text.head?, isDelimiter character = true

theorem isDelimited_nil : IsDelimited [] := by
  simp [IsDelimited]

theorem isDelimited_cons
    {character : Char}
    (delimits : isDelimiter character = true)
    (rest : List Char) :
    IsDelimited (character :: rest) := by
  simp [IsDelimited, delimits]

theorem IsDelimited.endsNumeral
    {text : List Char}
    (delimited : IsDelimited text) :
    EndsNumeral text where
  digits := by
    intro character first
    have delimits := delimited character first
    simp only [isDelimiter, List.contains_eq_mem, List.mem_cons,
      List.not_mem_nil, or_false, decide_eq_true_eq] at delimits
    rcases delimits with rfl | rfl | rfl | rfl | rfl | rfl <;> decide
  marks := by
    intro character first
    have delimits := delimited character first
    simp only [isDelimiter, List.contains_eq_mem, List.mem_cons,
      List.not_mem_nil, or_false, decide_eq_true_eq] at delimits
    rcases delimits with rfl | rfl | rfl | rfl | rfl | rfl <;> decide

/-- A text that denotes a value, wherever an operand can stand. -/
def Denotes
    {Number : Type}
    [DivisionRing Number]
    (text : List Char)
    (value : Number) :
    Prop :=
  ∀ rest,
    IsDelimited rest →
    ∃ decimal : Decimal,
      takeDecimal? (text ++ rest) = some (decimal, rest) ∧
      decimal.value = value

namespace ExpressionToken

/-- A text that is taken as a token in front of a rest. -/
structure Spells
    (token : ExpressionToken)
    (text rest : List Char) :
    Prop where
  filled : text ≠ []
  taken : take? (text ++ rest) = some (token, rest)

/-- The characters of a token that was taken are passed over. -/
theorem readAll_length_append (text rest : List Char) :
    readAll text.length (text ++ rest) = readAll 0 rest := by
  induction text with
  | nil => rfl
  | cons character text inductionHypothesis => exact inductionHypothesis

/-- A text that spells a token in front of others is read as it and them. -/
theorem Spells.cons
    {token : ExpressionToken}
    {text rest : List Char}
    {tokens : List ExpressionToken}
    (spells : Spells token text rest)
    (isRead : readAll 0 rest = some tokens) :
    readAll 0 (text ++ rest) = some (token :: tokens) := by
  obtain ⟨first, others, rfl⟩ := List.exists_cons_of_ne_nil spells.filled
  have passed : (others ++ rest).length - rest.length = others.length := by
    simp
  rw [List.cons_append, readAll, ← List.cons_append, spells.taken]
  dsimp only
  rw [passed, readAll_length_append, isRead, Option.map_some]

/-- A mark is a token of its own. -/
theorem readAll_mark
    (mark : Char)
    {token : ExpressionToken}
    {rest : List Char}
    {tokens : List ExpressionToken}
    (isMark : ofMark? mark = some token)
    (isRead : readAll 0 rest = some tokens) :
    readAll 0 (mark :: rest) = some (token :: tokens) := by
  have spells : Spells token [mark] rest :=
    ⟨List.cons_ne_nil _ _, by simp [take?, isMark]⟩
  exact spells.cons isRead

/-- No numeral begins with what is neither a digit nor a point. -/
theorem takeDecimal?_eq_none
    {first : Char}
    (noDigit : isAsciiDigit first = false)
    (noPoint : first ≠ '.')
    (rest : List Char) :
    takeDecimal? (first :: rest) = none := by
  have noFraction : takeFraction (first :: rest) = ([], first :: rest) := by
    rw [takeFraction]
    intro others same
    exact noPoint (List.head_eq_of_cons_eq same)
  simp [takeDecimal?, noDigit, noFraction]

theorem ofMark?_eq_none_of_digit
    {mark : Char}
    (isDigit : isAsciiDigit mark = true ∨ mark = '.') :
    ofMark? mark = none := by
  unfold ofMark?
  split <;> first | rfl | (rcases isDigit with isDigit | isPoint <;> contradiction)

/-- A numeral is no mark. -/
theorem readAll_number
    {text rest : List Char}
    {decimal : Decimal}
    {tokens : List ExpressionToken}
    (taken : takeDecimal? (text ++ rest) = some (decimal, rest))
    (filled : text ≠ [])
    (isRead : readAll 0 rest = some tokens) :
    readAll 0 (text ++ rest) = some (.number decimal :: tokens) := by
  have spells : Spells (.number decimal) text rest := by
    refine ⟨filled, ?_⟩
    obtain ⟨first, others, rfl⟩ := List.exists_cons_of_ne_nil filled
    have begins : isAsciiDigit first = true ∨ first = '.' := by
      by_contra neither
      rw [not_or, Bool.not_eq_true] at neither
      rw [List.cons_append, takeDecimal?_eq_none neither.1 neither.2] at taken
      cases taken
    rw [List.cons_append, take?, ofMark?_eq_none_of_digit begins,
      ← List.cons_append, taken]
  exact spells.cons isRead

/-- Whether a text is a word: it can be a name, and begins neither a numeral nor
with a mark. -/
def isWord (name : List Char) : Bool :=
  name.all isNameCharacter &&
    name.head?.any fun first =>
      !isAsciiDigit first && first ≠ '.' && ofMark? first = none

section Words

variable (name : List Char) {rest : List Char}

theorem takeWhile_word
    (word : isWord name = true)
    (ends : ∀ character ∈ rest.head?, isNameCharacter character = false) :
    (name ++ rest).takeWhile isNameCharacter = name := by
  have areName := List.all_eq_true.mp (Bool.and_eq_true_iff.mp word).1
  rw [List.takeWhile_append_of_pos areName]
  cases rest with
  | nil => simp
  | cons mark after => simp [ends mark rfl]

theorem dropWhile_word
    (word : isWord name = true)
    (ends : ∀ character ∈ rest.head?, isNameCharacter character = false) :
    (name ++ rest).dropWhile isNameCharacter = rest := by
  have areName := List.all_eq_true.mp (Bool.and_eq_true_iff.mp word).1
  rw [List.dropWhile_append_of_pos areName]
  cases rest with
  | nil => rfl
  | cons mark after => simp [ends mark rfl]

/-- A word is taken as a name. -/
theorem take?_word (word : isWord name = true) (rest : List Char) :
    name ≠ [] ∧ take? (name ++ rest) = takeName? (name ++ rest) := by
  have opens := (Bool.and_eq_true_iff.mp word).2
  cases name with
  | nil => cases opens
  | cons first others =>
      simp only [List.head?_cons, Option.any_some, Bool.and_eq_true,
        Bool.not_eq_true', decide_eq_true_eq] at opens
      obtain ⟨⟨noDigit, noPoint⟩, noMark⟩ := opens
      refine ⟨List.cons_ne_nil _ _, ?_⟩
      rw [List.cons_append, take?, noMark]
      dsimp only
      rw [takeDecimal?_eq_none noDigit noPoint]

theorem readAll_name
    {tokens : List ExpressionToken}
    (word : isWord name = true)
    (delimited : IsDelimited rest)
    (isRead : readAll 0 rest = some tokens) :
    readAll 0 (name ++ rest) =
      some (.name (String.ofList name) :: tokens) := by
  have marks :
      ∀ character ∈ rest.head?,
        isNameCharacter character = false ∧ character ≠ '(' := by
    intro character first
    have delimits := delimited character first
    simp only [isDelimiter, List.contains_eq_mem, List.mem_cons,
      List.not_mem_nil, or_false, decide_eq_true_eq] at delimits
    rcases delimits with rfl | rfl | rfl | rfl | rfl | rfl <;> decide
  have ends := fun character first => (marks character first).1
  obtain ⟨filled, taken⟩ := take?_word name word rest
  have spells : Spells (.name (String.ofList name)) name rest := by
    refine ⟨filled, ?_⟩
    rw [taken, takeName?, takeWhile_word name word ends, dropWhile_word name word ends,
      if_neg filled]
    split
    · exact absurd rfl (marks '(' rfl).2
    · rfl
  exact spells.cons isRead

theorem readAll_call
    {tokens : List ExpressionToken}
    (word : isWord name = true)
    (isRead : readAll 0 rest = some tokens) :
    readAll 0 (name ++ '(' :: rest) =
      some (.call (String.ofList name) :: tokens) := by
  have ends :
      ∀ character ∈ ('(' :: rest).head?,
        isNameCharacter character = false := by
    rintro _ ⟨⟩
    decide
  obtain ⟨filled, taken⟩ := take?_word name word ('(' :: rest)
  have spells :
      Spells (.call (String.ofList name)) (name ++ ['(']) rest := by
    refine ⟨by simp, ?_⟩
    rw [List.append_assoc, List.singleton_append, taken, takeName?,
      takeWhile_word name word ends, dropWhile_word name word ends, if_neg filled]
    rfl
  simpa using spells.cons isRead

end Words

end ExpressionToken

/-! ## Printed numbers -/

section Printed

variable {Number : Type} [Field Number]

/-- What denotes a value is read as a number. -/
theorem Denotes.readAll
    {text : List Char}
    {value : Number}
    (denotes : Denotes text value)
    {rest : List Char}
    {tokens : List ExpressionToken}
    (delimited : IsDelimited rest)
    (isRead : ExpressionToken.readAll 0 rest = some tokens) :
    ∃ decimal : Decimal,
      decimal.value = value ∧
      ExpressionToken.readAll 0 (text ++ rest) =
        some (.number decimal :: tokens) := by
  obtain ⟨decimal, taken, isValue⟩ := denotes rest delimited
  refine ⟨decimal, isValue, ExpressionToken.readAll_number taken ?_ isRead⟩
  rintro rfl
  rw [List.nil_append] at taken
  -- A delimiter is no numeral, and neither is the end of a text.
  cases rest with
  | nil => cases taken
  | cons mark after =>
      have ends := delimited.endsNumeral
      rw [ExpressionToken.takeDecimal?_eq_none (ends.digits mark rfl)
        fun isPoint => ends.marks mark rfl (by simp [isPoint])] at taken
      cases taken

theorem denotes_natural (number : Nat) :
    Denotes (decimalDigits number) (number : Number) := by
  intro rest delimited
  have taken :
      takeDecimal? (joinPlaces (decimalDigits number) [] ++ rest) = _ :=
    takeDecimal?_pointed (by simp [decimalDigits_ne_nil])
      (areDigits_decimalDigits number) (by simp [AreDigits])
      delimited.endsNumeral
  refine ⟨_, taken, ?_⟩
  simp [Decimal.value, decimalValue_decimalDigits]

theorem denotes_one : Denotes ['1'] (1 : Number) := by
  have digits : decimalDigits 1 = ['1'] := by
    rw [decimalDigits, if_pos (by decide)]
    rfl
  have denotes : Denotes (decimalDigits 1) ((1 : Nat) : Number) :=
    denotes_natural 1
  rwa [digits, Nat.cast_one] at denotes

/-- A number with six digits denotes the decimal of these digits. -/
theorem denotes_sixDigitText
    [CharZero Number]
    {units : Nat}
    (representable : Representable units) :
    Denotes (Binary64.finite false units representable).sixDigitText
      ((sixDigitDecimal units).value : Number) :=
  fun _ delimited =>
    takeDecimal?_sixDigitText Number representable delimited.endsNumeral

/-- A number with a fixed count of places denotes the whole count of them. -/
theorem denotes_fixedText
    (places : Nat)
    {units : Nat}
    (representable : Representable units) :
    Denotes ((Binary64.finite false units representable).fixedText places)
      (Decimal.value
        ⟨roundHalfEven (units * powerOfTen places) unitsPerOne, -places⟩ :
          Number) := by
  intro rest delimited
  generalize isCount :
    roundHalfEven (units * powerOfTen places) unitsPerOne = count
  have text :
      (Binary64.finite false units representable).fixedText places =
        joinPlaces (splitPlaces places count).1
          (splitPlaces places count).2 := by
    simp only [Binary64.fixedText, isCount, withSign, Bool.false_eq_true,
      ↓reduceIte]
  obtain ⟨joined, length⟩ := splitPlaces_digits places count
  have areDigits := areDigits_splitPlaces places count
  have filled :
      (splitPlaces places count).1 ++ (splitPlaces places count).2 ≠ [] := by
    rw [joined]
    simp [padZeros, decimalDigits_ne_nil]
  refine ⟨_, ?_, rfl⟩
  rw [text, takeDecimal?_pointed filled
    (areDigits.of_subset (List.subset_append_left _ _))
    (areDigits.of_subset (List.subset_append_right _ _))
    delimited.endsNumeral, decimalValue_splitPlaces, length]

/-! ## Values of texts -/

variable [LinearOrder Number]

/-- The value of the expression that a text is read as. -/
def evaluate?
    (quantities : String → Option Number)
    (text : String) :
    Option Number := do
  let expression ← readExpression? text
  expression.value? quantities

/-- A text has the value of the expression that its tokens are read as. -/
theorem evaluate?_of_readAll
    {text : String}
    {tokens : List ExpressionToken}
    (expression : Expression)
    (isRead : ExpressionToken.readAll 0 text.toList = some tokens)
    (isExpression :
      (tokens.foldlM ExpressionReading.take? {}).bind
        ExpressionReading.result? = some expression)
    (quantities : String → Option Number) :
    evaluate? quantities text = expression.value? quantities := by
  have read : readExpression? text = some expression := by
    unfold readExpression?
    rw [isRead]
    exact isExpression
  rw [evaluate?, read]
  rfl

/-- A numeral alone has the value that it denotes. -/
theorem Denotes.evaluate?
    {text : String}
    {value : Number}
    (denotes : Denotes text.toList value)
    (quantities : String → Option Number) :
    Montage.evaluate? quantities text = some value := by
  obtain ⟨decimal, isValue, reads⟩ :=
    denotes.readAll isDelimited_nil (ExpressionToken.readAll.eq_1 0)
  rw [List.append_nil] at reads
  rw [evaluate?_of_readAll (.number decimal) reads rfl,
    Expression.value?, isValue]

end Printed

end Montage
