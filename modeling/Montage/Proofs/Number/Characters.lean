import Montage.Number.Decimal
import Montage.Text.Digit

namespace Montage

/-!
# Characters of number texts

The text of a number, whatever its layout, has digits and a few other
characters, none of which has a meaning in graph text.
-/

/-- What holds of all codes of ASCII holds of its characters. -/
theorem forall_of_ascii
    (property : Char → Prop)
    (each : ∀ code < 128, property (Char.ofNat code))
    {character : Char}
    (isAscii : character.toNat < 128) :
    property character := by
  have holds := each character.toNat isAscii
  rwa [Char.ofNat_toNat] at holds

/-- The digits of a number are ASCII digits. -/
theorem isAsciiDigit_of_mem_decimalDigits
    {number : Nat}
    {character : Char}
    (member : character ∈ decimalDigits number) :
    isAsciiDigit character = true := by
  have isDigit : ∀ digit < 10, isAsciiDigit (digitChar digit) = true := by
    decide
  induction number using decimalDigits.induct with
  | case1 number isSmall =>
      rw [decimalDigits, if_pos isSmall, List.mem_singleton] at member
      rw [member]
      exact isDigit number isSmall
  | case2 number isLarge inductionHypothesis =>
      rw [decimalDigits, if_neg isLarge, List.mem_append,
        List.mem_singleton] at member
      rcases member with isHigher | isLast
      · exact inductionHypothesis isHigher
      · rw [isLast]
        exact isDigit _ (Nat.mod_lt number (by decide))

/-- The digits of a number denote it. -/
theorem decimalValue_decimalDigits
    (number : Nat) :
    decimalValue (decimalDigits number) = number := by
  have isDigit : ∀ digit < 10, digitOf (digitChar digit) = digit := by
    decide
  induction number using decimalDigits.induct with
  | case1 number isSmall =>
      rw [decimalDigits, if_pos isSmall]
      simp [decimalValue, isDigit number isSmall]
  | case2 number isLarge inductionHypothesis =>
      have last := isDigit (number % 10) (Nat.mod_lt number (by decide))
      rw [decimalDigits, if_neg isLarge]
      unfold decimalValue at inductionHypothesis ⊢
      rw [List.foldl_append, inductionHypothesis]
      simp only [List.foldl_cons, List.foldl_nil, last]
      omega

/-- Different numbers have different texts. -/
theorem showNatural_injective
    {number other : Nat}
    (same : showNatural number = showNatural other) :
    number = other := by
  have digits : decimalDigits number = decimalDigits other :=
    String.ofList_injective same
  rw [← decimalValue_decimalDigits number, digits, decimalValue_decimalDigits]

/-- Whether a character can stand in the text of a number. -/
def isNumeric (character : Char) : Bool :=
  isAsciiDigit character ||
    ['-', '+', '.', 'e', 'i', 'n', 'f', 'a'].contains character

/-- A text of characters that can stand in the text of a number. -/
def IsNumeric (text : List Char) : Prop :=
  ∀ character ∈ text, isNumeric character = true

instance (text : List Char) : Decidable (IsNumeric text) :=
  List.decidableBAll (isNumeric · = true) text

namespace IsNumeric

variable {text other : List Char}

theorem isAscii
    (numeric : IsNumeric text) :
    ∀ character ∈ text, character.toNat < 128 := by
  intro character member
  have digit (isDigit : isAsciiDigit character = true) :
      character.toNat < 128 := by
    simp only [isAsciiDigit, Bool.and_eq_true, decide_eq_true_eq] at isDigit
    have atMost : character.toNat ≤ '9'.toNat :=
      UInt32.le_iff_toNat_le.mp (Char.le_def.mp isDigit.2)
    exact Nat.lt_of_le_of_lt atMost (by decide)
  have others :
      ['-', '+', '.', 'e', 'i', 'n', 'f', 'a'].all (·.toNat < 128) = true := by
    decide
  have isNumeric := numeric character member
  rw [Montage.isNumeric, Bool.or_eq_true] at isNumeric
  rcases isNumeric with isDigit | isOther
  · exact digit isDigit
  · exact of_decide_eq_true
      (List.all_eq_true.mp others character (List.contains_iff_mem.mp isOther))

theorem append
    (left : IsNumeric text)
    (right : IsNumeric other) :
    IsNumeric (text ++ other) := by
  intro character member
  rcases List.mem_append.mp member with inLeft | inRight
  · exact left character inLeft
  · exact right character inRight

theorem cons
    {character : Char}
    (head : isNumeric character = true)
    (rest : IsNumeric text) :
    IsNumeric (character :: text) :=
  List.forall_mem_cons.mpr ⟨head, rest⟩

theorem of_subset
    (numeric : IsNumeric text)
    (subset : other ⊆ text) :
    IsNumeric other :=
  fun character member => numeric character (subset member)

theorem replicate
    (count : Nat) :
    IsNumeric (List.replicate count '0') := by
  intro character member
  rw [List.eq_of_mem_replicate member]
  rfl

theorem decimalDigits
    (number : Nat) :
    IsNumeric (decimalDigits number) := by
  intro character member
  simp [isNumeric, isAsciiDigit_of_mem_decimalDigits member]

theorem integerText
    (number : Int) :
    IsNumeric (integerText number) := by
  cases number with
  | ofNat magnitude => exact decimalDigits magnitude
  | negSucc magnitude => exact cons rfl (decimalDigits (magnitude + 1))

theorem padZeros
    (numeric : IsNumeric text)
    (width : Nat) :
    IsNumeric (padZeros width text) :=
  (replicate _).append numeric

theorem withSign
    (numeric : IsNumeric text)
    (negative : Bool) :
    IsNumeric (withSign negative text) := by
  cases negative with
  | false => exact numeric
  | true => exact cons rfl numeric

theorem dropTrailingZeros
    (numeric : IsNumeric text) :
    IsNumeric (dropTrailingZeros text) := by
  apply numeric.of_subset
  intro character member
  exact List.mem_reverse.mp <|
    (List.dropWhile_sublist _).subset (List.mem_reverse.mp member)

theorem splitPlaces
    (places count : Nat) :
    IsNumeric (splitPlaces places count).1 ∧
      IsNumeric (splitPlaces places count).2 := by
  have digits := (decimalDigits count).padZeros (places + 1)
  unfold Montage.splitPlaces
  simp only [List.splitAt_eq]
  exact ⟨digits.of_subset (List.take_subset _ _),
    digits.of_subset (List.drop_subset _ _)⟩

theorem joinPlaces
    (whole : IsNumeric text)
    (fraction : IsNumeric other) :
    IsNumeric (joinPlaces text other) := by
  unfold Montage.joinPlaces
  split
  · exact whole
  · exact whole.append (cons rfl fraction)

theorem exponentMark
    (exponent : Int) :
    IsNumeric (NumberLayout.exponentMark exponent) := by
  apply cons rfl
  apply cons
  · split <;> rfl
  · exact (decimalDigits _).padZeros 2

/-- Digits are laid out by points, zeros and exponent marks. -/
theorem write
    (layout : NumberLayout)
    (numeric : IsNumeric text)
    (exponent : Int) :
    IsNumeric (layout.write text exponent) := by
  have taken (count : Nat) : IsNumeric (text.take count) :=
    numeric.of_subset (List.take_subset _ _)
  have dropped (count : Nat) : IsNumeric (text.drop count) :=
    numeric.of_subset (List.drop_subset _ _)
  unfold NumberLayout.write
  dsimp only
  split
  · split
    · exact (cons rfl (cons rfl (replicate _))).append numeric
    · split
      · exact ((taken _).append (replicate _)).append
          (cons rfl (cons rfl (replicate 0)))
      · exact ((taken _).append (replicate _)).joinPlaces (dropped _)
  · exact ((taken 1).joinPlaces (dropped 1)).append (exponentMark exponent)

theorem nanText : IsNumeric nanText := by
  decide

theorem infinityText
    (negative : Bool) :
    IsNumeric (infinityText negative) := by
  cases negative <;> decide

theorem fixedText
    (places : Nat)
    (number : Binary64) :
    IsNumeric (number.fixedText places) := by
  cases number with
  | nan => exact nanText
  | infinite negative => exact infinityText negative
  | finite negative units representable =>
      obtain ⟨whole, fraction⟩ :=
        splitPlaces places
          (roundHalfEven (units * powerOfTen places) unitsPerOne)
      exact (whole.joinPlaces fraction).withSign negative

theorem sixDigitText
    (number : Binary64) :
    IsNumeric number.sixDigitText := by
  cases number with
  | nan => exact nanText
  | infinite negative => exact infinityText negative
  | finite negative units representable =>
      unfold Binary64.sixDigitText
      dsimp only
      split
      · exact (replicate 1).withSign negative
      · exact ((decimalDigits _).dropTrailingZeros.write _ _).withSign negative

end IsNumeric

end Montage
