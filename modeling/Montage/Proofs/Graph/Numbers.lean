import Montage.Graph.Filter
import Montage.Proofs.Effect.Ratio
import Montage.Proofs.Number.Nearest
import Montage.Proofs.Number.Printed
import Montage.Proofs.Number.Written

namespace Montage

/-!
# Numbers in graph text

A number is given to a filter as a plain decimal, which is what a person writes:
an optional minus, digits without a zero in front, and places that do not end in
a zero. An integer is given with all of its digits, any other number as the
multiple of a millionth that is nearest to it. The text tells the multiple and
nothing else about the number, and no more is lost when the text is read and
written again.
-/

/-! ## Zeros at both ends -/

/-- A number above zero is written without a zero in front. -/
theorem head?_decimalDigits
    {number : Nat}
    (positive : 0 < number) :
    (decimalDigits number).head? ≠ some '0' := by
  have notZero : ∀ digit < 10, 0 < digit → digitChar digit ≠ '0' := by
    decide
  induction number using decimalDigits.induct with
  | case1 number isSmall =>
      rw [decimalDigits, if_pos isSmall]
      simpa using notZero number isSmall positive
  | case2 number isLarge inductionHypothesis =>
      rw [decimalDigits, if_neg isLarge,
        List.head?_append_of_ne_nil _ (decimalDigits_ne_nil _)]
      exact inductionHypothesis (by omega)

/-- Digits begin with a zero only if there is no other one. -/
theorem decimalDigits_noLeadingZero
    {number : Nat}
    (opens : (decimalDigits number).head? = some '0') :
    decimalDigits number = ['0'] := by
  rcases Nat.eq_zero_or_pos number with rfl | positive
  · rw [decimalDigits, if_pos (by decide)]
    rfl
  · exact absurd opens (head?_decimalDigits positive)

/-- The digits before the point are not filled up beyond a single zero. -/
theorem splitPlaces_noLeadingZero
    {places count : Nat}
    (opens : (splitPlaces places count).1.head? = some '0') :
    (splitPlaces places count).1 = ['0'] := by
  have split :
      (splitPlaces places count).1 =
        (padZeros (places + 1) (decimalDigits count)).take
          ((padZeros (places + 1) (decimalDigits count)).length - places) := by
    unfold splitPlaces
    rw [List.splitAt_eq]
  rw [split] at opens ⊢
  by_cases short : (decimalDigits count).length ≤ places + 1
  · have single :
        (padZeros (places + 1) (decimalDigits count)).length - places = 1 := by
      simp only [padZeros, List.length_append, List.length_replicate]
      omega
    rw [single] at opens ⊢
    cases padded : padZeros (places + 1) (decimalDigits count) with
    | nil =>
        rw [padded] at opens
        cases opens
    | cons first rest =>
        rw [padded] at opens
        rw [Option.some.inj opens]
        rfl
  · have unpadded :
        padZeros (places + 1) (decimalDigits count) = decimalDigits count := by
      rw [padZeros, Nat.sub_eq_zero_of_le (by omega)]
      rfl
    have positive : 0 < count := by
      refine Nat.pos_of_ne_zero ?_
      rintro rfl
      rw [decimalDigits, if_pos (by decide), List.length_singleton] at short
      omega
    have some : (decimalDigits count).length - places ≠ 0 := by omega
    rw [unpadded, List.head?_take, if_neg some] at opens
    exact absurd opens (head?_decimalDigits positive)

/-- No zero is left at the end. -/
theorem getLast?_dropTrailingZeros (digits : List Char) :
    (dropTrailingZeros digits).getLast? ≠ some '0' := by
  rw [dropTrailingZeros, List.getLast?_reverse]
  intro isLast
  have notZero := List.head?_dropWhile_not (· == '0') digits.reverse
  rw [isLast] at notZero
  cases notZero

/-! ## Decimals as they are written -/

/-- A decimal with a sign, whole digits and places, none of them superfluous. -/
structure PlainDecimal where
  negative : Bool
  whole : List Char
  fraction : List Char
  wholeDigits : AreDigits whole
  wholeFilled : whole ≠ []
  noLeadingZero : whole.head? = some '0' → whole = ['0']
  fractionDigits : AreDigits fraction
  noFinalZero : fraction.getLast? ≠ some '0'
  /-- Zero has no sign. -/
  signed : negative = true → decimalValue (whole ++ fraction) ≠ 0

namespace PlainDecimal

/-- The text: no point is written where no place follows. -/
def text (decimal : PlainDecimal) : List Char :=
  withSign decimal.negative (joinPlaces decimal.whole decimal.fraction)

/-- The digits as one whole number of the last place. -/
def digits (decimal : PlainDecimal) : Nat :=
  decimalValue (decimal.whole ++ decimal.fraction)

/-- The number that is written. -/
def value (decimal : PlainDecimal) : ℚ :=
  Binary64.sign decimal.negative *
    Decimal.value ⟨decimal.digits, -decimal.fraction.length⟩

section Reading

variable (decimal : PlainDecimal)

theorem exists_body :
    ∃ first rest,
      joinPlaces decimal.whole decimal.fraction = first :: rest ∧
        isAsciiDigit first = true := by
  obtain ⟨first, rest, isWhole⟩ :=
    List.exists_cons_of_ne_nil decimal.wholeFilled
  have isDigit := decimal.wholeDigits first (by simp [isWhole])
  unfold joinPlaces
  split
  · exact ⟨first, rest, isWhole, isDigit⟩
  · exact ⟨first, _, by rw [isWhole, List.cons_append], isDigit⟩

/-- Digits and a point stand after the sign. -/
theorem forall_mem_body :
    ∀ character ∈ joinPlaces decimal.whole decimal.fraction,
      isAsciiDigit character = true ∨ character = '.' := by
  have isWhole (character : Char) (member : character ∈ decimal.whole) :
      isAsciiDigit character = true ∨ character = '.' :=
    .inl (decimal.wholeDigits character member)
  unfold joinPlaces
  split
  · exact isWhole
  · rw [List.forall_mem_append, List.forall_mem_cons]
    exact ⟨isWhole, .inr rfl, fun character member =>
      .inl (decimal.fractionDigits character member)⟩

theorem takeSign_text :
    takeSign decimal.text =
      (decimal.negative, joinPlaces decimal.whole decimal.fraction) := by
  obtain ⟨first, rest, isBody, isDigit⟩ := decimal.exists_body
  rw [text, isBody]
  exact takeSign_withSign decimal.negative
    (plain_of_isAsciiDigit isDigit).2.2.1 rest

theorem takeDecimal?_body :
    takeDecimal? (joinPlaces decimal.whole decimal.fraction) =
      some (⟨decimal.digits, -decimal.fraction.length⟩, []) := by
  have taken :=
    takeDecimal?_pointed
      (List.append_ne_nil_of_left_ne_nil decimal.wholeFilled decimal.fraction)
      decimal.wholeDigits decimal.fractionDigits endsNumeral_nil
  rwa [List.append_nil] at taken

/-- What is written tells the number. -/
theorem value_eq_of_text
    {decimal other : PlainDecimal}
    (same : decimal.text = other.text) :
    decimal.value = other.value := by
  have signs := congrArg takeSign same
  rw [takeSign_text, takeSign_text] at signs
  obtain ⟨sameSign, sameBody⟩ := Prod.mk.inj signs
  have bodies := congrArg takeDecimal? sameBody
  rw [takeDecimal?_body, takeDecimal?_body] at bodies
  have sameDecimal := (Prod.mk.inj (Option.some.inj bodies)).1
  rw [value, value, sameSign, sameDecimal]

/-- Every character is kept when the text is read as a numeral. -/
theorem plainNumeral_text :
    plainNumeral decimal.text = decimal.text := by
  have kept :
      ∀ character ∈ decimal.text,
        isSpace character = false ∧ asciiDigit character = character := by
    have body :
        ∀ character ∈ joinPlaces decimal.whole decimal.fraction,
          isSpace character = false ∧ asciiDigit character = character := by
      intro character member
      rcases decimal.forall_mem_body character member with isDigit | rfl
      · obtain ⟨noSpace, same, -⟩ := plain_of_isAsciiDigit isDigit
        exact ⟨noSpace, same⟩
      · decide
    unfold text withSign
    split
    · exact List.forall_mem_cons.mpr ⟨by decide, body⟩
    · exact body
  rw [plainNumeral, trimWhere_of_forall fun character member =>
    (kept character member).1]
  exact (List.map_congr_left fun character member =>
    (kept character member).2).trans (List.map_id' _)

/-- The digits with the point are read as the decimal they write. -/
theorem readDecimal?_body (negative : Bool) :
    readDecimal? negative (joinPlaces decimal.whole decimal.fraction) =
      some
        (.ofDecimal negative decimal.digits (-decimal.fraction.length)) :=
  readDecimal?_of_takeDecimal? decimal.takeDecimal?_body negative

/-- A plain decimal is read as the number that the format has for it. -/
theorem floatOfText_text :
    floatOfText (String.ofList decimal.text) =
      .ok
        (.ofDecimal decimal.negative decimal.digits
          (-decimal.fraction.length)) := by
  obtain ⟨first, rest, isBody, isDigit⟩ := decimal.exists_body
  have noUnderscore :
      '_' ∉ joinPlaces decimal.whole decimal.fraction := by
    intro member
    rcases decimal.forall_mem_body '_' member with isDigit | isPoint
    · exact absurd isDigit (by decide)
    · exact absurd isPoint (by decide)
  have isRead :
      readFloat? decimal.text =
        some
          (.ofDecimal decimal.negative decimal.digits
            (-decimal.fraction.length)) := by
    rw [text, ← decimal.readDecimal?_body decimal.negative]
    rw [isBody] at noUnderscore ⊢
    exact readFloat?_withSign decimal.negative
      (plain_of_isAsciiDigit isDigit).2.2.1 noUnderscore
  rw [floatOfText, String.toList_ofList, plainNumeral_text, isRead]

/-- A plain decimal of usual size is read as the number nearest to it. -/
theorem exists_floatOfText
    (few : decimal.fraction.length ≤ 300)
    (short : decimal.digits < powerOfTwo 1000) :
    ∃ number,
      floatOfText (String.ofList decimal.text) = .ok number ∧
        number.IsNearest decimal.value :=
  ⟨_, decimal.floatOfText_text, Binary64.isNearest_ofDecimal _ few short⟩

end Reading

/-! ## Whole numbers and millionths -/

theorem decimalValue_of_negative
    {number : Int}
    (negative : decide (number < 0) = true) :
    decimalValue (decimalDigits number.natAbs ++ []) ≠ 0 := by
  rw [List.append_nil, decimalValue_decimalDigits]
  have below := of_decide_eq_true negative
  omega

/-- A whole number as a plain decimal. -/
def ofInteger (number : Int) : PlainDecimal where
  negative := decide (number < 0)
  whole := decimalDigits number.natAbs
  fraction := []
  wholeDigits := areDigits_decimalDigits _
  wholeFilled := decimalDigits_ne_nil _
  noLeadingZero := decimalDigits_noLeadingZero
  fractionDigits := List.forall_mem_nil _
  noFinalZero := (Option.some_ne_none '0').symm
  signed := decimalValue_of_negative

theorem text_ofInteger (number : Int) :
    (ofInteger number).text = integerText number := by
  cases number with
  | ofNat number => rfl
  | negSucc number =>
      have isNegative := decide_eq_true (Int.negSucc_lt_zero number)
      simp only [text, ofInteger, isNegative, withSign, ↓reduceIte]
      rfl

theorem sign_mul_natAbs (number : Int) :
    Binary64.sign (decide (number < 0)) * (number.natAbs : ℚ) = number := by
  rcases lt_or_ge number 0 with below | atLeast
  · rw [decide_eq_true below, Nat.cast_natAbs, abs_of_neg below]
    simp [Binary64.sign]
  · rw [decide_eq_false (not_lt.mpr atLeast), Nat.cast_natAbs,
      abs_of_nonneg atLeast]
    simp [Binary64.sign]

theorem value_ofInteger (number : Int) :
    (ofInteger number).value = number := by
  rw [← sign_mul_natAbs number]
  simp [value, digits, ofInteger, Decimal.value, decimalValue_decimalDigits]

/-- The places of a count of millionths: those that were kept, and their
zeros. -/
theorem exists_keptPlaces (count : Nat) :
    ∃ zeros,
      (dropTrailingZeros (splitPlaces 6 count).2).length + zeros = 6 ∧
        decimalValue
            ((splitPlaces 6 count).1 ++
              dropTrailingZeros (splitPlaces 6 count).2) *
          10 ^ zeros = count := by
  obtain ⟨-, length⟩ := splitPlaces_digits 6 count
  have value := decimalValue_splitPlaces 6 count
  obtain ⟨zeros, parts⟩ := exists_dropTrailingZeros (splitPlaces 6 count).2
  refine ⟨zeros, ?_, ?_⟩
  · rw [parts, List.length_append, List.length_replicate] at length
    exact length
  · rw [parts, ← List.append_assoc, decimalValue_append, decimalValue_zeros,
      List.length_replicate, Nat.add_zero] at value
    exact value

theorem splitPlaces_filled (places count : Nat) :
    (splitPlaces places count).1 ≠ [] := by
  intro isEmpty
  obtain ⟨joined, length⟩ := splitPlaces_digits places count
  have long := congrArg List.length joined
  rw [isEmpty, List.nil_append, length, padZeros, List.length_append,
    List.length_replicate] at long
  omega

theorem areDigits_keptPlaces (places count : Nat) :
    AreDigits (dropTrailingZeros (splitPlaces places count).2) := by
  obtain ⟨zeros, parts⟩ := exists_dropTrailingZeros (splitPlaces places count).2
  refine (areDigits_splitPlaces places count).of_subset fun _ member =>
    List.mem_append_right _ ?_
  rw [parts]
  exact List.mem_append_left _ member

theorem decimalValue_keptPlaces_of_negative
    {count : Int}
    (negative : decide (count < 0) = true) :
    decimalValue
        ((splitPlaces 6 count.natAbs).1 ++
          dropTrailingZeros (splitPlaces 6 count.natAbs).2) ≠
      0 := by
  intro isZero
  obtain ⟨zeros, -, isCount⟩ := exists_keptPlaces count.natAbs
  have below := of_decide_eq_true negative
  rw [isZero, Nat.zero_mul] at isCount
  omega

/-- A count of millionths as a plain decimal. -/
def ofMillionths (count : Int) : PlainDecimal where
  negative := decide (count < 0)
  whole := (splitPlaces 6 count.natAbs).1
  fraction := dropTrailingZeros (splitPlaces 6 count.natAbs).2
  wholeDigits :=
    (areDigits_splitPlaces 6 count.natAbs).of_subset
      (List.subset_append_left _ _)
  wholeFilled := splitPlaces_filled 6 count.natAbs
  noLeadingZero := splitPlaces_noLeadingZero
  fractionDigits := areDigits_keptPlaces 6 count.natAbs
  noFinalZero := getLast?_dropTrailingZeros _
  signed := decimalValue_keptPlaces_of_negative

theorem text_ofMillionths (count : Int) :
    (ofMillionths count).text =
      withSign (decide (count < 0))
        (joinPlaces (splitPlaces 6 count.natAbs).1
          (dropTrailingZeros (splitPlaces 6 count.natAbs).2)) :=
  rfl

theorem length_fraction_ofMillionths (count : Int) :
    (ofMillionths count).fraction.length ≤ 6 := by
  obtain ⟨zeros, length, -⟩ := exists_keptPlaces count.natAbs
  exact Nat.le.intro length

theorem digits_ofMillionths_le (count : Int) :
    (ofMillionths count).digits ≤ count.natAbs := by
  obtain ⟨zeros, -, isCount⟩ := exists_keptPlaces count.natAbs
  exact (Nat.le_mul_of_pos_right _ (Nat.pow_pos (by decide))).trans isCount.le

theorem value_ofMillionths (count : Int) :
    (ofMillionths count).value = count / 10 ^ 6 := by
  obtain ⟨zeros, length, isCount⟩ := exists_keptPlaces count.natAbs
  have places :
      (-6 : Int) + zeros =
        -(dropTrailingZeros (splitPlaces 6 count.natAbs).2).length := by
    omega
  have magnitude :
      (Decimal.value
          ⟨(ofMillionths count).digits,
            -(ofMillionths count).fraction.length⟩ : ℚ) =
        count.natAbs / 10 ^ 6 := by
    change
      Decimal.value
          ⟨decimalValue
            ((splitPlaces 6 count.natAbs).1 ++
              dropTrailingZeros (splitPlaces 6 count.natAbs).2),
            -(dropTrailingZeros (splitPlaces 6 count.natAbs).2).length⟩ =
        _
    rw [← places, ← Decimal.value_shift, isCount, Decimal.value,
      zpow_neg, div_eq_mul_inv]
    rfl
  rw [value, magnitude, ← mul_div_assoc]
  exact congrArg (· / 10 ^ 6) (sign_mul_natAbs count)

end PlainDecimal

/-! ## Millionths -/

namespace Binary64

/-- The nearest count of millionths, halves to even. -/
def millionths : Binary64 → Int
  | finite negative units _ =>
      signedUnits negative (roundHalfEven (units * powerOfTen 6) unitsPerOne)
  | _ => 0

section Finite

variable {number other : Binary64} (isFinite : number.isFinite = true)
include isFinite

theorem isNearestInteger_millionths :
    IsNearestInteger number.millionths (number.exact * 10 ^ 6) := by
  cases number with
  | nan => cases isFinite
  | infinite negative => cases isFinite
  | finite negative units representable =>
      have nearest :=
        (isNearestInteger_roundHalfEven (units * powerOfTen 6)
          unitsPerOne_pos).signed negative
      have scaled :
          (finite negative units representable).exact * 10 ^ 6 =
            sign negative *
              ((units * powerOfTen 6 : Nat) / (unitsPerOne : ℚ)) := by
        have cast : ((powerOfTen 6 : Nat) : ℚ) = 10 ^ 6 := by
          norm_num [powerOfTen]
        rw [exact_finite, signedUnits_eq, Nat.cast_mul, cast]
        ring
      rw [scaled]
      exact nearest

/-- A number is written as its millionths. -/
theorem plainNumber_eq_text :
    plainNumber number =
      (PlainDecimal.ofMillionths number.millionths).text := by
  cases number with
  | nan => cases isFinite
  | infinite negative => cases isFinite
  | finite negative units representable =>
      dsimp only [plainNumber, millionths]
      generalize roundHalfEven (units * powerOfTen 6) unitsPerOne = count
      have isNegative :
          decide (signedUnits negative count < 0) =
            (negative && decide (count ≠ 0)) := by
        cases negative with
        | false => simp [signedUnits]
        | true => simp [signedUnits, Nat.pos_iff_ne_zero]
      rw [PlainDecimal.text_ofMillionths, isNegative, natAbs_signedUnits]

theorem millionths_eq_iff {multiple : Int} :
    number.millionths = multiple ↔
      IsNearestInteger multiple (number.exact * 10 ^ 6) := by
  have nearest := number.isNearestInteger_millionths isFinite
  exact ⟨fun same => same ▸ nearest, nearest.unique⟩

theorem millionths_mono
    (otherFinite : other.isFinite = true)
    (ordered : number.exact ≤ other.exact) :
    number.millionths ≤ other.millionths :=
  (number.isNearestInteger_millionths isFinite).mono
    (other.isNearestInteger_millionths otherFinite)
    (mul_le_mul_of_nonneg_right ordered (by positivity))

/-- The number that is nearest to the millionths of another has the same
ones. -/
theorem millionths_of_isNearest
    (nearest : other.IsNearest (number.millionths / 10 ^ 6)) :
    other.millionths = number.millionths := by
  have closer := nearest.nearest number isFinite
  have scale (place : ℚ) :
      |place * 10 ^ 6 - number.millionths| =
        |place - number.millionths / 10 ^ 6| * 10 ^ 6 := by
    have positive : (0 : ℚ) < 10 ^ 6 := by positivity
    rw [← abs_of_pos positive, ← abs_mul, abs_of_pos positive]
    congr 1
    field_simp
  refine (other.millionths_eq_iff nearest.isFinite).mpr
    ((number.isNearestInteger_millionths isFinite).of_nearer ?_)
  rw [scale, scale]
  exact mul_le_mul_of_nonneg_right closer (by positivity)

theorem natAbs_millionths_lt
    (bounded : |number.exact| < 10 ^ 9) :
    number.millionths.natAbs < powerOfTwo 1000 := by
  have near := (number.isNearestInteger_millionths isFinite).near
  have scaled : |number.exact * 10 ^ 6| < 10 ^ 15 := by
    rw [abs_mul, abs_of_pos (by positivity : (0 : ℚ) < 10 ^ 6)]
    linarith
  have magnitude : |(number.millionths : ℚ)| < 10 ^ 16 := by
    rw [abs_lt] at scaled ⊢
    rw [abs_le] at near
    constructor <;> linarith
  have count : number.millionths.natAbs < 10 ^ 16 := by
    have cast : ((number.millionths.natAbs : Nat) : ℚ) < 10 ^ 16 := by
      rwa [Nat.cast_natAbs, Int.cast_abs]
    exact_mod_cast cast
  exact count.trans (by decide +kernel)

end Finite

end Binary64

/-! ## Texts of numbers -/

namespace PlainDecimal

theorem text_ofMillionths_inj {multiple other : Int} :
    (ofMillionths multiple).text = (ofMillionths other).text ↔
      multiple = other := by
  refine ⟨fun same => ?_, fun same => same ▸ rfl⟩
  have values := value_eq_of_text same
  rw [value_ofMillionths, value_ofMillionths] at values
  have casts : (multiple : ℚ) = other := by linarith
  exact_mod_cast casts

end PlainDecimal

theorem isWritten_integer_iff
    {whole : Int} :
    (OptionValue.integer whole).isWritten = true ↔
      whole.natAbs < 10 ^ digitLimit := by
  have isPower (exponent : Nat) : powerOfTen exponent = 10 ^ exponent := rfl
  rw [OptionValue.isWritten, isWrittenInteger, decide_eq_true_iff, isPower]

/-- The text of a number is a plain decimal: all digits of an integer that has
not too many of them to be written, and at most six places of another number,
whose value is the nearest multiple of a millionth, halves to even. So texts are
ordered as their numbers are, are the same for numbers with the same nearest
multiple, and are kept when the text is read as a number and this one is
written. -/
theorem number_rendered_as_nearest_decimal
    {whole : Int}
    (short : whole.natAbs < 10 ^ digitLimit)
    {number other : Binary64}
    (isFinite : number.isFinite = true)
    (otherFinite : other.isFinite = true) :
    (∃ decimal : PlainDecimal,
      (OptionValue.integer whole).isWritten = true ∧
        (OptionValue.integer whole).render = decimal.text ∧
        decimal.fraction = [] ∧
        decimal.value = whole) ∧
    (∃ (decimal : PlainDecimal) (multiple : Int),
      (OptionValue.number number).render = decimal.text ∧
        decimal.fraction.length ≤ 6 ∧
        decimal.value = multiple / 10 ^ 6 ∧
        IsNearestInteger multiple (number.exact * 10 ^ 6) ∧
        ((OptionValue.number other).render = decimal.text ↔
          IsNearestInteger multiple (other.exact * 10 ^ 6)) ∧
        (other.IsNearest decimal.value →
          (OptionValue.number other).render = decimal.text) ∧
        (|number.exact| < 10 ^ 9 →
          ∃ again,
            floatOfText (String.ofList decimal.text) = .ok again ∧
              again.IsNearest decimal.value ∧
              (OptionValue.number again).render = decimal.text)) ∧
    ∀ low high : PlainDecimal,
      (OptionValue.number number).render = low.text →
      (OptionValue.number other).render = high.text →
      number.exact ≤ other.exact →
      low.value ≤ high.value := by
  have rendered {number : Binary64} (isFinite : number.isFinite = true) :
      (OptionValue.number number).render =
        (PlainDecimal.ofMillionths number.millionths).text :=
    number.plainNumber_eq_text isFinite
  have renderedAgain
      {again : Binary64}
      (nearest :
        again.IsNearest (PlainDecimal.ofMillionths number.millionths).value) :
      (OptionValue.number again).render =
        (PlainDecimal.ofMillionths number.millionths).text := by
    rw [PlainDecimal.value_ofMillionths] at nearest
    rw [rendered nearest.isFinite,
      number.millionths_of_isNearest isFinite nearest]
  refine ⟨⟨.ofInteger whole, isWritten_integer_iff.mpr short,
      (PlainDecimal.text_ofInteger whole).symm, rfl,
      PlainDecimal.value_ofInteger whole⟩,
    ⟨.ofMillionths number.millionths, number.millionths, rendered isFinite,
      PlainDecimal.length_fraction_ofMillionths _,
      PlainDecimal.value_ofMillionths _,
      number.isNearestInteger_millionths isFinite, ?same, renderedAgain,
      ?again⟩, ?ordered⟩
  case same =>
    rw [rendered otherFinite, PlainDecimal.text_ofMillionths_inj,
      other.millionths_eq_iff otherFinite]
  case again =>
    intro bounded
    have few : (PlainDecimal.ofMillionths number.millionths).fraction.length ≤
        300 :=
      (PlainDecimal.length_fraction_ofMillionths _).trans (by decide)
    obtain ⟨again, isRead, nearest⟩ :=
      PlainDecimal.exists_floatOfText _ few
        ((PlainDecimal.digits_ofMillionths_le _).trans_lt
          (number.natAbs_millionths_lt isFinite bounded))
    exact ⟨again, isRead, nearest, renderedAgain nearest⟩
  case ordered =>
    intro low high isLow isHigh ordered
    rw [rendered isFinite] at isLow
    rw [rendered otherFinite] at isHigh
    rw [← PlainDecimal.value_eq_of_text isLow,
      ← PlainDecimal.value_eq_of_text isHigh, PlainDecimal.value_ofMillionths,
      PlainDecimal.value_ofMillionths]
    have millionths :=
      number.millionths_mono isFinite otherFinite ordered
    exact div_le_div_of_nonneg_right (by exact_mod_cast millionths)
      (by positivity)

-- What is less than half a millionth below zero has no sign.
example : (OptionValue.number (-0.0000004)).render = ['0'] := by
  decide +kernel

/-- A sum of tenths is not the number nearest to three tenths, and has its
text. -/
theorem number_rendered_as_nearest_decimal_tenths :
    (0.1 + 0.2 : Binary64).isFinite = true ∧
      (0.3 : Binary64).isFinite = true ∧
      (0.1 + 0.2 : Binary64) ≠ 0.3 ∧
      (OptionValue.number (0.1 + 0.2)).render =
        (OptionValue.number 0.3).render ∧
      (OptionValue.number 0.3).render = ['0', '.', '3'] := by
  have sumFinite : (0.1 + 0.2 : Binary64).isFinite = true := by
    decide +kernel
  have otherFinite : (0.3 : Binary64).isFinite = true := by
    decide +kernel
  have sameCount :
      (0.3 : Binary64).millionths = (0.1 + 0.2 : Binary64).millionths := by
    decide +kernel
  have short : (0 : Int).natAbs < 10 ^ digitLimit := Nat.pow_pos (by decide)
  obtain ⟨-, ⟨decimal, multiple, isText, -, -, nearest, same, -⟩, -⟩ :=
    number_rendered_as_nearest_decimal short sumFinite otherFinite
  have isCount := (Binary64.millionths_eq_iff sumFinite).mpr nearest
  have otherText :=
    same.mpr
      ((Binary64.millionths_eq_iff otherFinite).mp (sameCount.trans isCount))
  exact ⟨sumFinite, otherFinite, by decide +kernel,
    isText.trans otherText.symm, by decide +kernel⟩

end Montage
