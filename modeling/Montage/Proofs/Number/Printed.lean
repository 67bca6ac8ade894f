import Mathlib.Algebra.CharZero.Defs
import Mathlib.Algebra.Field.Basic
import Mathlib.Algebra.Order.Field.Basic
import Mathlib.Data.List.Induction
import Mathlib.Data.List.TakeWhile
import Mathlib.Tactic.FieldSimp
import Mathlib.Tactic.Ring
import Montage.Number.Numeral
import Montage.Proofs.Number.Characters
import Montage.Proofs.Number.Order

namespace Montage

/-!
# Printed numbers

A text of six significant digits is read as the decimal of these digits: zeros
that were dropped, points that were moved and exponents that were marked do not
change what it denotes. It ends where the number ends.
-/

/-! ## Decimals without rounding

A numeral at the start of a text as the decimal that it denotes: digits with a
point and an exponent are a whole number times a power of ten. Nothing is
rounded, so decimals have values in every field.
-/

/-- A whole number times a power of ten. -/
structure Decimal where
  mantissa : Nat
  exponent : Int
deriving DecidableEq, Repr

/-- The value of a decimal. -/
def Decimal.value
    {Number : Type}
    [DivisionRing Number]
    (decimal : Decimal) :
    Number :=
  decimal.mantissa * 10 ^ decimal.exponent

/-- Take an exponent; a mark without digits after it is none. -/
def takeExponent : List Char → Int × List Char
  | [] => (0, [])
  | mark :: rest =>
      let signed := takeSign rest
      let digits := signed.2.takeWhile isAsciiDigit
      if (mark = 'e' ∨ mark = 'E') ∧ digits ≠ [] then
        (if signed.1 then -(decimalValue digits : Int) else decimalValue digits,
          signed.2.dropWhile isAsciiDigit)
      else
        (0, mark :: rest)

/-- Take the digits after a point, if there is one. -/
def takeFraction : List Char → List Char × List Char
  | '.' :: rest =>
      (rest.takeWhile isAsciiDigit, rest.dropWhile isAsciiDigit)
  | text => ([], text)

/-- Take a numeral without sign, as far as it goes. -/
def takeDecimal? (text : List Char) : Option (Decimal × List Char) :=
  let whole := text.takeWhile isAsciiDigit
  let pointed := takeFraction (text.dropWhile isAsciiDigit)
  let marked := takeExponent pointed.2
  if whole = [] ∧ pointed.1 = [] then
    none
  else
    some
      ({ mantissa := decimalValue (whole ++ pointed.1)
         exponent := marked.1 - pointed.1.length },
        marked.2)

/-! ## Characters of numerals -/

/-- Whether a character can stand in a numeral. -/
def isNumeralCharacter (character : Char) : Bool :=
  isAsciiDigit character || ['.', 'e', 'E', '+', '-'].contains character

section Characters

variable {text rest : List Char} {character : Char}

theorem isNumeralCharacter_or_mem_dropWhile
    (member : character ∈ text) :
    isNumeralCharacter character = true ∨
      character ∈ text.dropWhile isAsciiDigit := by
  rw [← List.takeWhile_append_dropWhile (p := isAsciiDigit) (l := text),
    List.mem_append] at member
  refine member.imp_left fun taken => ?_
  have isDigit :=
    List.all_eq_true.mp (List.all_takeWhile (p := isAsciiDigit) (l := text))
  simp [isNumeralCharacter, isDigit character taken]

theorem isNumeralCharacter_or_mem_takeSign
    (member : character ∈ text) :
    isNumeralCharacter character = true ∨ character ∈ (takeSign text).2 := by
  unfold takeSign
  split
  · exact (List.mem_cons.mp member).imp_left fun same => by rw [same]; rfl
  · exact (List.mem_cons.mp member).imp_left fun same => by rw [same]; rfl
  · exact .inr member

theorem isNumeralCharacter_or_mem_takeExponent
    (member : character ∈ text) :
    isNumeralCharacter character = true ∨ character ∈ (takeExponent text).2 := by
  cases text with
  | nil => exact .inr member
  | cons mark later =>
      unfold takeExponent
      dsimp only
      split
      · rename_i isMark
        rcases List.mem_cons.mp member with same | isLater
        · rw [same]
          rcases isMark.1 with isSmall | isCapital
          · rw [isSmall]
            exact .inl rfl
          · rw [isCapital]
            exact .inl rfl
        · exact (isNumeralCharacter_or_mem_takeSign isLater).elim .inl
            isNumeralCharacter_or_mem_dropWhile
      · exact .inr member

theorem isNumeralCharacter_or_mem_takeFraction
    (member : character ∈ text) :
    isNumeralCharacter character = true ∨ character ∈ (takeFraction text).2 := by
  unfold takeFraction
  split
  · rcases List.mem_cons.mp member with same | isLater
    · rw [same]
      exact .inl rfl
    · exact isNumeralCharacter_or_mem_dropWhile isLater
  · exact .inr member

/-- What is taken as a numeral is of characters of numerals. -/
theorem isNumeralCharacter_of_takeDecimal?
    {decimal : Decimal}
    (isTaken : takeDecimal? text = some (decimal, []))
    (member : character ∈ text) :
    isNumeralCharacter character = true := by
  unfold takeDecimal? at isTaken
  dsimp only at isTaken
  split at isTaken
  · cases isTaken
  · have noRest := congrArg Prod.snd (Option.some.inj isTaken)
    dsimp only at noRest
    rcases isNumeralCharacter_or_mem_dropWhile member with taken | inPointed
    · exact taken
    rcases isNumeralCharacter_or_mem_takeFraction inPointed with
      taken | inMarked
    · exact taken
    rcases isNumeralCharacter_or_mem_takeExponent inMarked with taken | inRest
    · exact taken
    rw [noRest] at inRest
    cases inRest

end Characters

/-! ## Runs of digits -/

/-- A text that consists of ASCII digits. -/
def AreDigits (text : List Char) : Prop :=
  ∀ character ∈ text, isAsciiDigit character = true

/-- A text that does not begin with a digit. -/
def EndsDigits (text : List Char) : Prop :=
  ∀ character ∈ text.head?, isAsciiDigit character = false

/-- A text that no numeral in front of it goes on with. -/
structure EndsNumeral (text : List Char) : Prop where
  digits : EndsDigits text
  marks : ∀ character ∈ text.head?, character ∉ ['.', 'e', 'E']

theorem endsNumeral_nil : EndsNumeral [] where
  digits := by simp [EndsDigits]
  marks := by simp

section Runs

variable {digits rest : List Char}

theorem takeWhile_digits
    (areDigits : AreDigits digits)
    (ends : EndsDigits rest) :
    (digits ++ rest).takeWhile isAsciiDigit = digits := by
  rw [List.takeWhile_append_of_pos areDigits]
  cases rest with
  | nil => simp
  | cons character later => simp [ends character (by simp)]

theorem dropWhile_digits
    (areDigits : AreDigits digits)
    (ends : EndsDigits rest) :
    (digits ++ rest).dropWhile isAsciiDigit = rest := by
  rw [List.dropWhile_append_of_pos areDigits]
  cases rest with
  | nil => simp
  | cons character later => simp [ends character (by simp)]

/-- Digits after others denote the remaining places. -/
theorem decimalValue_append (digits others : List Char) :
    decimalValue (digits ++ others) =
      decimalValue digits * 10 ^ others.length + decimalValue others := by
  have moves (total : Nat) :
      others.foldl (fun total digit => 10 * total + digitOf digit) total =
        total * 10 ^ others.length + decimalValue others := by
    unfold decimalValue
    induction others generalizing total with
    | nil => simp
    | cons digit others inductionHypothesis =>
        rw [List.foldl_cons, List.foldl_cons, inductionHypothesis,
          inductionHypothesis (10 * 0 + digitOf digit), List.length_cons]
        ring
  rw [decimalValue, List.foldl_append]
  exact moves (decimalValue digits)

theorem decimalValue_zeros (count : Nat) :
    decimalValue (List.replicate count '0') = 0 := by
  induction count with
  | zero => rfl
  | succ count inductionHypothesis =>
      rw [List.replicate_succ', decimalValue_append, inductionHypothesis]
      rfl

theorem areDigits_zeros (count : Nat) : AreDigits (List.replicate count '0') := by
  intro character member
  rw [List.eq_of_mem_replicate member]
  rfl

theorem AreDigits.append
    {others : List Char}
    (left : AreDigits digits)
    (right : AreDigits others) :
    AreDigits (digits ++ others) :=
  List.forall_mem_append.mpr ⟨left, right⟩

theorem AreDigits.of_subset
    {others : List Char}
    (areDigits : AreDigits digits)
    (subset : others ⊆ digits) :
    AreDigits others :=
  fun character member => areDigits character (subset member)

theorem areDigits_decimalDigits (number : Nat) :
    AreDigits (decimalDigits number) :=
  fun _ => isAsciiDigit_of_mem_decimalDigits

theorem decimalDigits_ne_nil (number : Nat) : decimalDigits number ≠ [] := by
  unfold decimalDigits
  split <;> simp

/-- A number has fewer than ten to the number of its digits. -/
theorem decimalValue_lt (areDigits : AreDigits digits) :
    decimalValue digits < 10 ^ digits.length := by
  induction digits using List.reverseRecOn with
  | nil => simp [decimalValue]
  | append_singleton digits digit inductionHypothesis =>
      have isDigit := areDigits digit (by simp)
      have small : decimalValue [digit] < 10 := by
        simp only [isAsciiDigit, Bool.and_eq_true, decide_eq_true_eq,
          Char.le_def, UInt32.le_iff_toNat_le] at isDigit
        have below : digit.toNat ≤ 57 := isDigit.2
        simp only [decimalValue, List.foldl_cons, List.foldl_nil, digitOf]
        omega
      have earlier :=
        inductionHypothesis (areDigits.of_subset (List.subset_append_left _ _))
      rw [decimalValue_append, List.length_append, List.length_singleton,
        Nat.pow_one, Nat.pow_succ]
      omega

theorem lt_pow_length_decimalDigits (number : Nat) :
    number < 10 ^ (decimalDigits number).length := by
  simpa only [decimalValue_decimalDigits] using
    decimalValue_lt (areDigits_decimalDigits number)

/-- A number is at least one followed by zeros. -/
theorem pow_length_decimalDigits_le
    {number : Nat}
    (positive : 0 < number) :
    10 ^ ((decimalDigits number).length - 1) ≤ number := by
  induction number using decimalDigits.induct with
  | case1 number isSmall =>
      rw [decimalDigits, if_pos isSmall]
      exact positive
  | case2 number isLarge inductionHypothesis =>
      have shorter : 10 ^ ((decimalDigits (number / 10)).length - 1) ≤
          number / 10 :=
        inductionHypothesis (by omega)
      have filled :=
        List.length_pos_of_ne_nil (decimalDigits_ne_nil (number / 10))
      rw [decimalDigits, if_neg isLarge, List.length_append,
        List.length_singleton, Nat.add_sub_cancel]
      calc 10 ^ (decimalDigits (number / 10)).length
          = 10 ^ ((decimalDigits (number / 10)).length - 1) * 10 := by
            rw [← Nat.pow_succ, Nat.succ_eq_add_one, Nat.sub_add_cancel filled]
        _ ≤ number / 10 * 10 := Nat.mul_le_mul_right 10 shorter
        _ ≤ number := Nat.div_mul_le_self number 10

/-- A number below a power of ten has few digits. -/
theorem length_decimalDigits_le
    {count number : Nat}
    (short : number < 10 ^ (count + 1)) :
    (decimalDigits number).length ≤ count + 1 := by
  rcases Nat.eq_zero_or_pos number with rfl | positive
  · rw [decimalDigits, if_pos (by decide)]
    exact Nat.succ_le_succ (Nat.zero_le count)
  · by_contra long
    have power :
        10 ^ (count + 1) ≤ 10 ^ ((decimalDigits number).length - 1) :=
      Nat.pow_le_pow_right (by decide) (by omega)
    exact absurd short
      (power.trans (pow_length_decimalDigits_le positive)).not_gt

end Runs

/-! ## Numerals with points and exponents -/

/-- An exponent is taken with its sign. -/
theorem takeExponent_exponentMark
    (exponent : Int)
    {rest : List Char}
    (ends : EndsDigits rest) :
    takeExponent (NumberLayout.exponentMark exponent ++ rest) =
      (exponent, rest) := by
  have digits : AreDigits (padZeros 2 (decimalDigits exponent.natAbs)) :=
    (areDigits_zeros _).append (areDigits_decimalDigits _)
  have filled : padZeros 2 (decimalDigits exponent.natAbs) ≠ [] := by
    simp [padZeros, decimalDigits_ne_nil]
  have value :
      decimalValue (padZeros 2 (decimalDigits exponent.natAbs)) =
        exponent.natAbs := by
    rw [padZeros, decimalValue_append, decimalValue_zeros, Nat.zero_mul,
      Nat.zero_add, decimalValue_decimalDigits]
  unfold NumberLayout.exponentMark
  by_cases negative : exponent < 0
  · simp only [negative, ↓reduceIte, List.cons_append, takeExponent, takeSign,
      takeWhile_digits digits ends, dropWhile_digits digits ends, value]
    simp [filled, abs_of_neg negative]
  · simp only [negative, ↓reduceIte, List.cons_append, takeExponent, takeSign,
      takeWhile_digits digits ends, dropWhile_digits digits ends, value]
    simp [filled, abs_of_nonneg (not_lt.mp negative)]

/-- Without a mark there is no exponent. -/
theorem takeExponent_of_endsNumeral
    {rest : List Char}
    (ends : EndsNumeral rest) :
    takeExponent rest = (0, rest) := by
  cases rest with
  | nil => rfl
  | cons mark later =>
      have marks := ends.marks mark (by simp)
      simp only [List.mem_cons, List.not_mem_nil, or_false, not_or] at marks
      simp [takeExponent, marks.2.1, marks.2.2]

section Numerals

variable {whole fraction after : List Char}

/-- Digits with a point are one run of digits, and places are counted. -/
theorem takeDecimal?_joinPlaces
    (filled : whole ++ fraction ≠ [])
    (areWhole : AreDigits whole)
    (areFraction : AreDigits fraction)
    (ends : EndsDigits after)
    (noPoint : '.' ∉ after.head?) :
    takeDecimal? (joinPlaces whole fraction ++ after) =
      some
        ({ mantissa := decimalValue (whole ++ fraction)
           exponent := (takeExponent after).1 - fraction.length },
          (takeExponent after).2) := by
  unfold joinPlaces takeDecimal?
  cases fraction with
  | nil =>
      have noFraction : takeFraction after = ([], after) := by
        cases after with
        | nil => rfl
        | cons mark later =>
            rw [takeFraction]
            intro others same
            simp [List.head_eq_of_cons_eq same] at noPoint
      rw [List.append_nil] at filled
      simp only [List.isEmpty_nil, ↓reduceIte, takeWhile_digits areWhole ends,
        dropWhile_digits areWhole ends, noFraction, filled, and_true,
        List.append_nil]
  | cons first others =>
      have pointEnds : EndsDigits ('.' :: (first :: others ++ after)) := by
        simp [EndsDigits, isAsciiDigit]
      simp only [List.isEmpty_cons, Bool.false_eq_true, ↓reduceIte,
        List.append_assoc, List.cons_append (a := '.'),
        takeWhile_digits areWhole pointEnds,
        dropWhile_digits areWhole pointEnds, takeFraction,
        takeWhile_digits areFraction ends, dropWhile_digits areFraction ends,
        reduceCtorEq, and_false, ↓reduceIte]

/-- A numeral with a point that no exponent follows. -/
theorem takeDecimal?_pointed
    {rest : List Char}
    (filled : whole ++ fraction ≠ [])
    (areWhole : AreDigits whole)
    (areFraction : AreDigits fraction)
    (ends : EndsNumeral rest) :
    takeDecimal? (joinPlaces whole fraction ++ rest) =
      some (⟨decimalValue (whole ++ fraction), -fraction.length⟩, rest) := by
  have noPoint : '.' ∉ rest.head? := fun member =>
    ends.marks '.' member (by simp)
  rw [takeDecimal?_joinPlaces filled areWhole areFraction ends.digits noPoint,
    takeExponent_of_endsNumeral ends, zero_sub]

/-- A numeral with a point and an exponent. -/
theorem takeDecimal?_marked
    {rest : List Char}
    (filled : whole ++ fraction ≠ [])
    (areWhole : AreDigits whole)
    (areFraction : AreDigits fraction)
    (exponent : Int)
    (ends : EndsDigits rest) :
    takeDecimal?
        (joinPlaces whole fraction ++
          (NumberLayout.exponentMark exponent ++ rest)) =
      some
        (⟨decimalValue (whole ++ fraction), exponent - fraction.length⟩,
          rest) := by
  have markEnds : EndsDigits (NumberLayout.exponentMark exponent ++ rest) := by
    simp [EndsDigits, NumberLayout.exponentMark, isAsciiDigit]
  rw [takeDecimal?_joinPlaces filled areWhole areFraction markEnds
    (by simp [NumberLayout.exponentMark]),
    takeExponent_exponentMark exponent ends]

end Numerals

/-! ## Numerals that are read whole -/

/-- An exponent that ends its text is read. -/
theorem readExponent?_of_takeExponent
    {text : List Char}
    {exponent : Int}
    (taken : takeExponent text = (exponent, [])) :
    readExponent? text = some exponent := by
  cases text with
  | nil =>
      cases taken
      rfl
  | cons mark rest =>
      unfold takeExponent at taken
      dsimp only at taken
      split at taken
      · rename_i marked
        obtain ⟨isExponent, noRest⟩ := Prod.mk.inj taken
        have areDigits := List.dropWhile_eq_nil_iff.mp noRest
        have whole := List.takeWhile_eq_self_iff.mpr areDigits
        have filled : (takeSign rest).2 ≠ [] := whole ▸ marked.2
        have isRun :
            (!(takeSign rest).2.isEmpty &&
              (takeSign rest).2.all isAsciiDigit) = true := by
          simpa [filled] using areDigits
        rw [whole] at isExponent
        unfold readExponent?
        dsimp only
        rw [if_pos marked.1, wholeDigits?, if_pos isRun, ← isExponent]
        rfl
      · cases (Prod.mk.inj taken).2

/-- A numeral that is taken whole is read as its decimal. -/
theorem readDecimal?_of_takeDecimal?
    {text : List Char}
    {decimal : Decimal}
    (taken : takeDecimal? text = some (decimal, []))
    (negative : Bool) :
    readDecimal? negative text =
      some (.ofDecimal negative decimal.mantissa decimal.exponent) := by
  unfold takeDecimal? at taken
  dsimp only at taken
  split at taken
  · cases taken
  · rename_i filled
    obtain ⟨isDecimal, noRest⟩ := Prod.mk.inj (Option.some.inj taken)
    have isExponent := readExponent?_of_takeExponent (Prod.ext rfl noRest)
    rw [← isDecimal]
    unfold readDecimal?
    dsimp only
    generalize text.dropWhile isAsciiDigit = after at filled isExponent ⊢
    generalize text.takeWhile isAsciiDigit = whole at filled ⊢
    by_cases isPointed : ∃ others, after = '.' :: others
    · obtain ⟨others, rfl⟩ := isPointed
      simp only [takeFraction] at filled isExponent ⊢
      simpa [isExponent] using filled
    · have noFraction : takeFraction after = ([], after) := by
        unfold takeFraction
        split
        · exact (isPointed ⟨_, rfl⟩).elim
        · rfl
      rw [noFraction] at filled isExponent ⊢
      split
      · exact (isPointed ⟨_, rfl⟩).elim
      · simpa [isExponent] using filled

/-! ## Layouts -/

/-- Zeros in front of digits do not count. -/
theorem decimalValue_zeros_append (count : Nat) (digits : List Char) :
    decimalValue (List.replicate count '0' ++ digits) =
      decimalValue digits := by
  rw [decimalValue_append, decimalValue_zeros, Nat.zero_mul, Nat.zero_add]

/-- Zeros at the end are counted by the exponent. -/
theorem exists_dropTrailingZeros (digits : List Char) :
    ∃ count,
      digits = dropTrailingZeros digits ++ List.replicate count '0' := by
  have zeros :
      ∀ character ∈ digits.reverse.takeWhile (· == '0'), character = '0' := by
    intro character member
    simpa using List.mem_takeWhile_imp member
  refine ⟨(digits.reverse.takeWhile (· == '0')).length, ?_⟩
  have parts := congrArg List.reverse
    (List.takeWhile_append_dropWhile (p := (· == '0')) (l := digits.reverse))
  rw [List.reverse_append, List.reverse_reverse,
    List.eq_replicate_of_mem zeros, List.reverse_replicate] at parts
  exact parts.symm

/-- Places that were split off are a run of digits with the others, and as many
as they should be. -/
theorem splitPlaces_digits (places count : Nat) :
    (splitPlaces places count).1 ++ (splitPlaces places count).2 =
        padZeros (places + 1) (decimalDigits count) ∧
      (splitPlaces places count).2.length = places := by
  unfold splitPlaces
  simp only [List.splitAt_eq, List.take_append_drop, List.length_drop,
    true_and]
  simp only [padZeros, List.length_append, List.length_replicate]
  omega

theorem areDigits_splitPlaces (places count : Nat) :
    AreDigits
      ((splitPlaces places count).1 ++ (splitPlaces places count).2) := by
  rw [(splitPlaces_digits places count).1]
  exact (areDigits_zeros _).append (areDigits_decimalDigits count)

theorem decimalValue_splitPlaces (places count : Nat) :
    decimalValue
        ((splitPlaces places count).1 ++ (splitPlaces places count).2) =
      count := by
  rw [(splitPlaces_digits places count).1, padZeros,
    decimalValue_zeros_append, decimalValue_decimalDigits]

section Layouts

variable {Number : Type} [Field Number] [CharZero Number]

/-- Digits before a point that moved. -/
theorem Decimal.value_shift
    (mantissa count : Nat)
    (exponent : Int) :
    (Decimal.value ⟨mantissa * 10 ^ count, exponent⟩ : Number) =
      Decimal.value ⟨mantissa, exponent + count⟩ := by
  have ten : (10 : Number) ≠ 0 := by norm_num
  simp only [Decimal.value, Nat.cast_mul, Nat.cast_pow, Nat.cast_ofNat,
    zpow_add₀ ten, zpow_natCast]
  ring

/-- Digits before the point, with zeros up to it. -/
theorem value_padded
    (digits : List Char)
    (width : Nat) :
    (Decimal.value
        ⟨decimalValue
            (digits.take width ++
              List.replicate (width - (digits.take width).length) '0' ++
              digits.drop width),
          -(digits.drop width).length⟩ : Number) =
      Decimal.value ⟨decimalValue digits, (width : Int) - digits.length⟩ := by
  by_cases short : digits.length ≤ width
  · rw [List.take_of_length_le short, List.drop_of_length_le short,
      List.append_nil, decimalValue_append, decimalValue_zeros, Nat.add_zero,
      List.length_replicate, Decimal.value_shift]
    congr 2
    simp only [List.length_nil]
    omega
  · have width_le : width ≤ digits.length := by omega
    rw [List.length_take, Nat.min_eq_left width_le, Nat.sub_self,
      List.replicate_zero, List.append_nil, List.take_append_drop,
      List.length_drop]
    congr 2
    omega

variable (Number) in
/-- Digits that are laid out denote what they denoted, with the exponent of the
first one. -/
theorem takeDecimal?_write
    {layout : NumberLayout}
    (plain : layout.keepsPoint = false)
    {digits rest : List Char}
    (filled : digits ≠ [])
    (areDigits : AreDigits digits)
    (exponent : Int)
    (ends : EndsNumeral rest) :
    ∃ decimal,
      takeDecimal? (layout.write digits exponent ++ rest) =
        some (decimal, rest) ∧
      (decimal.value : Number) =
        Decimal.value
          ⟨decimalValue digits, exponent + 1 - digits.length⟩ := by
  have taken (count : Nat) : AreDigits (digits.take count) :=
    areDigits.of_subset (List.take_subset _ _)
  have dropped (count : Nat) : AreDigits (digits.drop count) :=
    areDigits.of_subset (List.drop_subset _ _)
  unfold NumberLayout.write
  dsimp only
  split
  · split
    · rename_i negative
      have layout :
          '0' :: '.' :: List.replicate (exponent.natAbs - 1) '0' ++ digits =
            joinPlaces ['0']
              (List.replicate (exponent.natAbs - 1) '0' ++ digits) := by
        simp [joinPlaces, filled]
      rw [layout]
      refine ⟨_, takeDecimal?_pointed (by simp) (areDigits_zeros 1)
        ((areDigits_zeros _).append areDigits) ends, ?_⟩
      rw [← List.append_assoc, ← List.replicate_one, ← List.replicate_add,
        decimalValue_zeros_append, List.length_append, List.length_replicate]
      congr 2
      omega
    · rename_i notNegative
      simp only [plain, Bool.false_eq_true, and_false, ↓reduceIte]
      refine ⟨_, takeDecimal?_pointed (by simp [filled])
        ((taken _).append (areDigits_zeros _)) (dropped _) ends, ?_⟩
      rw [value_padded]
      congr 2
      omega
  · rw [List.append_assoc]
    refine ⟨_, takeDecimal?_marked (by simp [filled]) (taken 1) (dropped 1)
      exponent ends.digits, ?_⟩
    rw [List.take_append_drop, List.length_drop]
    have positive := List.length_pos_of_ne_nil filled
    congr 2
    omega

variable (Number) in
/-- Zeros at the end may be missing. -/
theorem takeDecimal?_write_dropTrailingZeros
    {layout : NumberLayout}
    (plain : layout.keepsPoint = false)
    {digits rest : List Char}
    (positive : 0 < decimalValue digits)
    (areDigits : AreDigits digits)
    (exponent : Int)
    (ends : EndsNumeral rest) :
    ∃ decimal,
      takeDecimal? (layout.write (dropTrailingZeros digits) exponent ++ rest) =
        some (decimal, rest) ∧
      (decimal.value : Number) =
        Decimal.value
          ⟨decimalValue digits, exponent + 1 - digits.length⟩ := by
  obtain ⟨count, parts⟩ := exists_dropTrailingZeros digits
  have value :
      decimalValue digits =
        decimalValue (dropTrailingZeros digits) * 10 ^ count := by
    conv_lhs => rw [parts]
    rw [decimalValue_append, decimalValue_zeros, Nat.add_zero,
      List.length_replicate]
  have length : digits.length = (dropTrailingZeros digits).length + count := by
    conv_lhs => rw [parts]
    rw [List.length_append, List.length_replicate]
  have kept : AreDigits (dropTrailingZeros digits) := by
    apply areDigits.of_subset
    conv_rhs => rw [parts]
    exact List.subset_append_left _ _
  have filled : dropTrailingZeros digits ≠ [] := by
    intro isNil
    rw [value, isNil, show decimalValue [] = 0 from rfl] at positive
    omega
  obtain ⟨decimal, taken, same⟩ :=
    takeDecimal?_write Number plain filled kept exponent ends
  refine ⟨decimal, taken, ?_⟩
  rw [same, value, length, Decimal.value_shift]
  congr 2
  omega

end Layouts

/-! ## Six digits -/

/-- The nearest to a count of units among the decimals of six significant
digits. -/
def sixDigitDecimal (units : Nat) : Decimal where
  mantissa :=
    roundHalfEven (scaledUnits units (leadingExponent units - 5)).1
      (scaledUnits units (leadingExponent units - 5)).2
  exponent := leadingExponent units - 5

theorem scaledUnits_pos (units : Nat) (exponent : Int) :
    0 < (scaledUnits units exponent).2 := by
  have one := unitsPerOne_pos
  unfold scaledUnits
  generalize unitsPerOne = unit at one ⊢
  split
  · exact Nat.mul_pos one (Nat.pow_pos (by decide))
  · exact one

/-- A number that is not zero has six significant digits. -/
theorem scaledUnits_proper
    {units : Nat}
    (positive : 0 < units) :
    (scaledUnits units (leadingExponent units - 5)).2 ≤
      (scaledUnits units (leadingExponent units - 5)).1 := by
  have one := unitsPerOne_pos
  unfold leadingExponent scaledUnits
  generalize unitsPerOne = unit at one ⊢
  by_cases large : unit ≤ units
  · simp only [large, ↓reduceIte]
    have long := pow_length_decimalDigits_le (Nat.div_pos large one)
    generalize (decimalDigits (units / unit)).length = length at long ⊢
    split
    · rename_i power isPower
      rw [Int.ofNat_eq_natCast] at isPower
      have shorter : power ≤ length - 1 := by omega
      calc unit * powerOfTen power
          ≤ unit * 10 ^ (length - 1) :=
            Nat.mul_le_mul_left _ (Nat.pow_le_pow_right (by decide) shorter)
        _ ≤ unit * (units / unit) := Nat.mul_le_mul_left _ long
        _ ≤ units := Nat.mul_div_le units unit
    · rename_i power _
      exact large.trans (Nat.le_mul_of_pos_right _ (Nat.pow_pos (by decide)))
  · simp only [large, ↓reduceIte]
    have next := lt_pow_length_decimalDigits ((unit - 1) / units)
    generalize (decimalDigits ((unit - 1) / units)).length = length at next ⊢
    split
    · rename_i power isPower
      rw [Int.ofNat_eq_natCast] at isPower
      omega
    · rename_i power isPower
      have longer : length ≤ power + 1 := by omega
      have reaches : unit ≤ 10 ^ length * units := by
        have below := (Nat.div_lt_iff_lt_mul positive).mp next
        omega
      calc unit ≤ 10 ^ length * units := reaches
        _ ≤ 10 ^ (power + 1) * units :=
          Nat.mul_le_mul_right _ (Nat.pow_le_pow_right (by decide) longer)
        _ = units * powerOfTen (power + 1) := Nat.mul_comm _ _

section Digits

variable {Number : Type} [Field Number] {units : Nat} {rest : List Char}

variable (Number) in
/-- A text of six digits is read as the decimal of these digits. -/
theorem takeDecimal?_sixDigitText
    [CharZero Number]
    (representable : Representable units)
    (ends : EndsNumeral rest) :
    ∃ decimal,
      takeDecimal?
          ((Binary64.finite false units representable).sixDigitText ++ rest) =
        some (decimal, rest) ∧
      (decimal.value : Number) = (sixDigitDecimal units).value := by
  by_cases isZero : units = 0
  · subst isZero
    refine ⟨⟨0, 0⟩, ?_, ?_⟩
    · exact takeDecimal?_pointed (by simp) (areDigits_zeros 1)
        (areDigits_zeros 0) ends
    · have noDigits : (sixDigitDecimal 0).mantissa = 0 := by
        decide +kernel
      simp [Decimal.value, noDigits]
  · have proper := scaledUnits_proper (Nat.pos_of_ne_zero isZero)
    have rounded : 0 < (sixDigitDecimal units).mantissa := by
      have whole := Nat.div_pos proper (scaledUnits_pos _ _)
      have nearest :=
        le_roundHalfEven
          (scaledUnits units (leadingExponent units - 5)).1
          (scaledUnits units (leadingExponent units - 5)).2
      simp only [sixDigitDecimal]
      exact whole.trans_le nearest
    have text :
        (Binary64.finite false units representable).sixDigitText =
          NumberLayout.sixDigits.write
            (dropTrailingZeros
              (decimalDigits (sixDigitDecimal units).mantissa))
            (leadingExponent units +
              (((decimalDigits (sixDigitDecimal units).mantissa).length : Int)
                - 6)) := by
      simp only [Binary64.sixDigitText, sixDigitDecimal, isZero, ↓reduceIte,
        withSign, Bool.false_eq_true]
    have value := decimalValue_decimalDigits (sixDigitDecimal units).mantissa
    obtain ⟨decimal, taken, same⟩ :=
      takeDecimal?_write_dropTrailingZeros Number
        (rfl : NumberLayout.sixDigits.keepsPoint = false)
        (value.symm ▸ rounded)
        (areDigits_decimalDigits (sixDigitDecimal units).mantissa)
        (leadingExponent units +
          (((decimalDigits (sixDigitDecimal units).mantissa).length : Int) - 6))
        ends
    refine ⟨decimal, by rw [text]; exact taken, ?_⟩
    have exponents (length : Int) :
        leadingExponent units + (length - 6) + 1 - length =
          leadingExponent units - 5 := by
      ring
    rw [same, value, exponents]
    simp only [sixDigitDecimal]

/-- Up to one, rounding to six digits does not pass one. -/
theorem sixDigitDecimal_le_one
    [LinearOrder Number]
    [IsStrictOrderedRing Number]
    (atMost : units ≤ unitsPerOne) :
    ((sixDigitDecimal units).value : Number) ≤ 1 := by
  have one := unitsPerOne_pos
  have notAbove : leadingExponent units ≤ 0 := by
    unfold leadingExponent
    split
    · rename_i atLeast
      have isOne : units / unitsPerOne = 1 := by
        rw [Nat.le_antisymm atMost atLeast, Nat.div_self one]
      rw [isOne]
      simp [decimalDigits]
    · omega
  obtain ⟨places, isNegative⟩ :
      ∃ places, leadingExponent units - 5 = .negSucc places :=
    ⟨(4 - leadingExponent units).toNat, by omega⟩
  have rounded :
      (sixDigitDecimal units).mantissa ≤ 10 ^ (places + 1) := by
    have exact :
        roundHalfEven (unitsPerOne * powerOfTen (places + 1)) unitsPerOne =
          powerOfTen (places + 1) := by
      rw [roundHalfEven_of_dvd one (Nat.dvd_mul_right _ _),
        Nat.mul_div_cancel_left _ one]
    have ordered :=
      roundHalfEven_mono
        (Nat.mul_le_mul_right (powerOfTen (places + 1)) atMost) unitsPerOne
    rw [exact] at ordered
    simp only [sixDigitDecimal, isNegative, scaledUnits]
    exact ordered
  have exponent : (sixDigitDecimal units).exponent = -(places + 1 : Nat) := by
    rw [sixDigitDecimal, isNegative]
    rfl
  have positive : (0 : Number) < 10 ^ (places + 1) :=
    pow_pos (by norm_num) _
  rw [Decimal.value, exponent, zpow_neg, zpow_natCast, ← div_eq_mul_inv,
    div_le_one positive]
  exact_mod_cast rounded

end Digits

end Montage
