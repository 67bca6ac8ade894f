import Mathlib.Data.List.TakeWhile
import Montage.Proofs.Disk.Path
import Montage.Proofs.Render.Names
import Montage.Proofs.Work.Values
import Montage.Stage.Crop

namespace Montage

/-!
# Aspect ratios that are read

An aspect ratio is accepted by a pattern and read as two numbers later. The
pattern knows digits of more scripts than numerals do: a ratio with such a
digit is accepted, and is not read.
-/

/-! ## Digits of patterns -/

theorem isPatternDigit_iff
    {character : Char} :
    isPatternDigit character = true ↔
      ∃ start ∈ decimalZeros ++ patternZeros,
        start ≤ character.toNat ∧ character.toNat < start + 10 := by
  simp only [isPatternDigit, isDecimalDigit, decimalDigit?, Option.isSome_map,
    List.find?_isSome, Bool.or_eq_true, List.any_eq_true, Bool.and_eq_true,
    decide_eq_true_eq, List.mem_append]
  constructor
  · rintro (⟨start, member, inRun⟩ | ⟨start, member, inRun⟩)
    · exact ⟨start, .inl member, inRun⟩
    · exact ⟨start, .inr member, inRun⟩
  · rintro ⟨start, member | member, inRun⟩
    · exact .inl ⟨start, member, inRun⟩
    · exact .inr ⟨start, member, inRun⟩

/-- A digit of a pattern is no blank, and no mark of a numeral. -/
theorem plain_of_isPatternDigit
    {character : Char}
    (isDigit : isPatternDigit character = true) :
    isSpace character = false ∧ character ≠ ':' ∧ character ≠ '.' := by
  have computed :
      ∀ start ∈ decimalZeros ++ patternZeros, ∀ offset < 10,
        isSpace (Char.ofNat (start + offset)) = false ∧
          Char.ofNat (start + offset) ≠ ':' ∧
          Char.ofNat (start + offset) ≠ '.' := by
    decide +kernel
  obtain ⟨start, member, above, below⟩ := isPatternDigit_iff.mp isDigit
  have plain :=
    computed start member (character.toNat - start) (by omega)
  rwa [Nat.add_sub_cancel' above, Char.ofNat_toNat] at plain

/-- What digits become when a numeral is read: ASCII digits, or characters
beyond ASCII. -/
def IsDigitLike (character : Char) : Prop :=
  isAsciiDigit character = true ∨ 128 ≤ character.toNat

/-- A digit becomes an ASCII digit exactly if numerals know its script. -/
theorem asciiDigit_isDigitLike
    {character : Char}
    (isDigit : isPatternDigit character = true) :
    IsDigitLike (asciiDigit character) ∧
      (isAsciiDigit (asciiDigit character) = true ↔
        isDecimalDigit character = true) := by
  have ascii :
      ∀ value < 10, isAsciiDigit (Char.ofNat (48 + value)) = true := by
    decide
  cases found : decimalDigit? character with
  | some value =>
      have becomes : asciiDigit character = Char.ofNat (48 + value) := by
        simp [asciiDigit, found]
      have isAscii := ascii value (decimalDigit?_lt found)
      rw [becomes]
      exact ⟨.inl isAscii, iff_of_true isAscii (by simp [isDecimalDigit, found])⟩
  | none =>
      have stays : asciiDigit character = character := by
        simp [asciiDigit, found]
      have unknown : isDecimalDigit character = false := by
        simp [isDecimalDigit, found]
      have notAscii : ¬ isAsciiDigit character = true := by
        intro isAscii
        rw [isDecimalDigit_of_isAsciiDigit isAscii] at unknown
        cases unknown
      have far : ∀ start ∈ patternZeros, 128 ≤ start := by
        decide
      have beyond : 128 ≤ character.toNat := by
        simp only [isPatternDigit, unknown, Bool.false_or, List.any_eq_true,
          Bool.and_eq_true, decide_eq_true_eq] at isDigit
        obtain ⟨start, member, above, _⟩ := isDigit
        exact (far start member).trans above
      rw [stays]
      exact ⟨.inr beyond, iff_of_false notAscii (by simp [unknown])⟩

namespace IsDigitLike

variable {character : Char}

/-- A digit is no ASCII character that is none. -/
theorem ne_of_ascii
    (digitLike : IsDigitLike character)
    {other : Char}
    (isAscii : other.toNat < 128)
    (noDigit : isAsciiDigit other = false) :
    character ≠ other := by
  rintro rfl
  rcases digitLike with isDigit | beyond
  · rw [isDigit] at noDigit
    cases noDigit
  · omega

/-- A digit is the same in both cases. -/
theorem toLower_eq
    (digitLike : IsDigitLike character) :
    character.toLower = character := by
  have small : ¬ ('A' ≤ character ∧ character ≤ 'Z') := by
    rintro ⟨above, below⟩
    have low : 65 ≤ character.toNat :=
      UInt32.le_iff_toNat_le.mp (Char.le_def.mp above)
    have high : character.toNat ≤ 90 :=
      UInt32.le_iff_toNat_le.mp (Char.le_def.mp below)
    rcases digitLike with isDigit | beyond
    · simp only [isAsciiDigit, Bool.and_eq_true, decide_eq_true_eq,
        Char.le_def, UInt32.le_iff_toNat_le] at isDigit
      have digitHigh : character.toNat ≤ 57 := isDigit.2
      omega
    · omega
  exact dif_neg small

end IsDigitLike

/-! ## Numerals of digits -/

theorem withoutUnderscores?_of_not_mem
    {text : List Char}
    (free : '_' ∉ text) :
    withoutUnderscores? text = some text := by
  have between (previous : Bool) :
      underscoresBetweenDigits previous text = true := by
    induction text generalizing previous with
    | nil => rfl
    | cons character rest inductionHypothesis =>
        rw [List.mem_cons, not_or] at free
        simp [underscoresBetweenDigits, Ne.symm free.1,
          inductionHypothesis free.2]
  have kept : text.filter (· ≠ '_') = text := by
    rw [List.filter_eq_self]
    intro character member
    simpa using ne_of_mem_of_not_mem member free
  rw [withoutUnderscores?, between false, if_pos rfl, kept]

/-- What begins with a digit has no sign. -/
theorem takeSign_of_isDigitLike
    {first : Char}
    (digitLike : IsDigitLike first)
    (rest : List Char) :
    takeSign (first :: rest) = (false, first :: rest) := by
  have noMinus : first ≠ '-' := digitLike.ne_of_ascii (by decide) (by decide)
  have noPlus : first ≠ '+' := digitLike.ne_of_ascii (by decide) (by decide)
  unfold takeSign
  split
  · rename_i same
    exact absurd (List.head_eq_of_cons_eq same) noMinus
  · rename_i same
    exact absurd (List.head_eq_of_cons_eq same) noPlus
  · rfl

/-- A sign that was put in front of a digit is taken again. -/
theorem takeSign_withSign
    (negative : Bool)
    {first : Char}
    (digitLike : IsDigitLike first)
    (rest : List Char) :
    takeSign (withSign negative (first :: rest)) =
      (negative, first :: rest) := by
  cases negative with
  | false => exact takeSign_of_isDigitLike digitLike rest
  | true => rfl

/-- What begins with a digit is no name of a number, with a sign or without. -/
theorem readFloat?_withSign
    (negative : Bool)
    {first : Char}
    {rest : List Char}
    (digitLike : IsDigitLike first)
    (free : '_' ∉ first :: rest) :
    readFloat? (withSign negative (first :: rest)) =
      readDecimal? negative (first :: rest) := by
  have noName
      {initial : Char}
      {others : List Char}
      (isAscii : initial.toNat < 128)
      (noDigit : isAsciiDigit initial = false) :
      String.ofList ((first :: rest).map Char.toLower) ≠
        String.ofList (initial :: others) := by
    intro same
    have initials := String.ofList_injective same
    rw [List.map_cons, digitLike.toLower_eq] at initials
    exact digitLike.ne_of_ascii isAscii noDigit
      (List.head_eq_of_cons_eq initials)
  have noInf : String.ofList ((first :: rest).map Char.toLower) ≠ "inf" :=
    @noName 'i' ['n', 'f'] (by decide) (by decide)
  have noInfinity :
      String.ofList ((first :: rest).map Char.toLower) ≠ "infinity" :=
    @noName 'i' "nfinity".toList (by decide) (by decide)
  have noNan : String.ofList ((first :: rest).map Char.toLower) ≠ "nan" :=
    @noName 'n' ['a', 'n'] (by decide) (by decide)
  unfold readFloat?
  simp only [takeSign_withSign negative digitLike, noInf, noInfinity, noNan,
    or_self, ↓reduceIte, withoutUnderscores?_of_not_mem free, Option.bind_some]

/-- What begins with a digit is no name of a number, and has no sign. -/
theorem readFloat?_of_isDigitLike
    {first : Char}
    {rest : List Char}
    (digitLike : IsDigitLike first)
    (free : '_' ∉ first :: rest) :
    readFloat? (first :: rest) = readDecimal? false (first :: rest) :=
  readFloat?_withSign false digitLike free

/-- No exponent begins with a digit. -/
theorem readExponent?_of_isDigitLike
    {first : Char}
    (digitLike : IsDigitLike first)
    (rest : List Char) :
    readExponent? (first :: rest) = none := by
  have noMark : first ≠ 'e' := digitLike.ne_of_ascii (by decide) (by decide)
  have noCapital : first ≠ 'E' := digitLike.ne_of_ascii (by decide) (by decide)
  simp [readExponent?, noMark, noCapital]

/-- Digits, and nothing or a point and further digits. -/
inductive IsDecimalOf (isDigit : Char → Prop) : List Char → Prop
  | whole
      {digits : List Char}
      (nonempty : digits ≠ [])
      (areDigits : ∀ character ∈ digits, isDigit character) :
      IsDecimalOf isDigit digits
  | pointed
      {digits others : List Char}
      (nonempty : digits ≠ [])
      (areDigits : ∀ character ∈ digits, isDigit character)
      (areOthers : ∀ character ∈ others, isDigit character) :
      IsDecimalOf isDigit (digits ++ '.' :: others)

namespace IsDecimalOf

variable {isDigit : Char → Prop} {text : List Char}

/-- A character of a decimal is the point or a digit. -/
theorem part
    (decimal : IsDecimalOf isDigit text)
    {character : Char}
    (member : character ∈ text) :
    character = '.' ∨ isDigit character := by
  cases decimal with
  | whole _ areDigits => exact .inr (areDigits character member)
  | pointed _ areDigits areOthers =>
      rw [List.mem_append, List.mem_cons] at member
      rcases member with inDigits | isPoint | inOthers
      · exact .inr (areDigits character inDigits)
      · exact .inl isPoint
      · exact .inr (areOthers character inOthers)

/-- A decimal begins with a digit. -/
theorem opens
    (decimal : IsDecimalOf isDigit text) :
    ∃ first rest, text = first :: rest ∧ isDigit first := by
  cases decimal with
  | whole nonempty areDigits =>
      obtain ⟨first, rest, rfl⟩ := List.exists_cons_of_ne_nil nonempty
      exact ⟨first, rest, rfl, areDigits first List.mem_cons_self⟩
  | pointed nonempty areDigits =>
      obtain ⟨first, rest, rfl⟩ := List.exists_cons_of_ne_nil nonempty
      exact ⟨first, _, rfl, areDigits first List.mem_cons_self⟩

/-- A decimal stays one when its digits change. -/
theorem map
    {becomesDigit : Char → Prop}
    {change : Char → Char}
    (decimal : IsDecimalOf isDigit text)
    (keepsPoint : change '.' = '.')
    (changes :
      ∀ character, isDigit character → becomesDigit (change character)) :
    IsDecimalOf becomesDigit (text.map change) := by
  have changed :
      ∀ {digits : List Char},
        (∀ character ∈ digits, isDigit character) →
        ∀ character ∈ digits.map change, becomesDigit character := by
    intro digits areDigits
    rw [List.forall_mem_map]
    exact fun character member => changes character (areDigits character member)
  cases decimal with
  | whole nonempty areDigits =>
      exact .whole (by simpa using nonempty) (changed areDigits)
  | pointed nonempty areDigits areOthers =>
      rw [List.map_append, List.map_cons, keepsPoint]
      exact .pointed (by simpa using nonempty) (changed areDigits)
        (changed areOthers)

end IsDecimalOf

/-- Digits leave no exponent exactly if all of them are ASCII digits. -/
theorem readExponent?_isSome_iff
    {digits : List Char}
    (areLike : ∀ character ∈ digits, IsDigitLike character) :
    (readExponent? (digits.dropWhile isAsciiDigit)).isSome = true ↔
      ∀ character ∈ digits, isAsciiDigit character = true := by
  induction digits with
  | nil => simp [readExponent?]
  | cons first rest inductionHypothesis =>
      obtain ⟨firstLike, restLike⟩ := List.forall_mem_cons.mp areLike
      rw [List.forall_mem_cons, ← inductionHypothesis restLike]
      by_cases isAscii : isAsciiDigit first = true
      · rw [List.dropWhile_cons_of_pos isAscii]
        exact (and_iff_right isAscii).symm
      · rw [List.dropWhile_cons_of_neg isAscii,
          readExponent?_of_isDigitLike firstLike]
        exact iff_of_false Bool.false_ne_true fun both => isAscii both.1

/-- A digit that is no ASCII digit ends a numeral. -/
theorem readDecimal?_of_foreign
    {digits : List Char}
    (areLike : ∀ character ∈ digits, IsDigitLike character)
    (foreign : ¬ ∀ character ∈ digits, isAsciiDigit character = true)
    (rest : List Char)
    (negative : Bool) :
    readDecimal? negative (digits ++ rest) = none := by
  have stops :
      ∃ first later,
        (digits ++ rest).dropWhile isAsciiDigit = first :: later ∧
        IsDigitLike first := by
    cases remaining : digits.dropWhile isAsciiDigit with
    | nil => exact (foreign (List.dropWhile_eq_nil_iff.mp remaining)).elim
    | cons first later =>
        have inDigits : first ∈ digits :=
          (List.dropWhile_sublist _).subset (by rw [remaining]; simp)
        exact ⟨first, later ++ rest,
          by simp [List.dropWhile_append, remaining], areLike first inDigits⟩
  obtain ⟨first, later, dropped, firstLike⟩ := stops
  have noPoint : first ≠ '.' := firstLike.ne_of_ascii (by decide) (by decide)
  unfold readDecimal?
  simp only [dropped]
  split
  · rename_i same
    exact absurd (List.head_eq_of_cons_eq same) noPoint
  · rw [readExponent?_of_isDigitLike firstLike, Option.map_none, ite_self]

/-- A decimal is read exactly if all of its digits are ASCII digits. -/
theorem readDecimal?_isSome_iff
    {text : List Char}
    (decimal : IsDecimalOf IsDigitLike text)
    (negative : Bool) :
    (readDecimal? negative text).isSome = true ↔
      ∀ character ∈ text,
        character ≠ '.' → isAsciiDigit character = true := by
  have digitsOnly :
      ∀ {digits : List Char},
        (∀ character ∈ digits, IsDigitLike character) →
        ((∀ character ∈ digits,
            character ≠ '.' → isAsciiDigit character = true) ↔
          ∀ character ∈ digits, isAsciiDigit character = true) := by
    intro digits areLike
    refine forall₂_congr fun character member => ?_
    exact imp_iff_right
      ((areLike character member).ne_of_ascii (by decide) (by decide))
  have point : isAsciiDigit '.' = false := by decide
  cases decimal with
  | whole nonempty areLike =>
      rw [digitsOnly areLike]
      by_cases areAscii :
          ∀ character ∈ text, isAsciiDigit character = true
      · have dropped := List.dropWhile_eq_nil_iff.mpr areAscii
        have taken := List.takeWhile_eq_self_iff.mpr areAscii
        refine iff_of_true ?_ areAscii
        simp [readDecimal?, dropped, taken, nonempty, readExponent?]
      · have none := readDecimal?_of_foreign areLike areAscii [] negative
        rw [List.append_nil] at none
        exact iff_of_false (by simp [none]) areAscii
  | @pointed digits others nonempty areLike othersLike =>
      rw [List.forall_mem_append, List.forall_mem_cons, digitsOnly areLike,
        digitsOnly othersLike]
      by_cases areAscii :
          ∀ character ∈ digits, isAsciiDigit character = true
      · rw [← readExponent?_isSome_iff othersLike]
        have dropped :
            (digits ++ '.' :: others).dropWhile isAsciiDigit =
              '.' :: others := by
          rw [List.dropWhile_append_of_pos areAscii]
          simp [point]
        have taken :
            (digits ++ '.' :: others).takeWhile isAsciiDigit = digits := by
          rw [List.takeWhile_append_of_pos areAscii]
          simp [point]
        simpa [readDecimal?, dropped, taken, nonempty] using
          fun _ => areAscii
      · refine iff_of_false ?_ fun all => areAscii all.1
        simp [readDecimal?_of_foreign areLike areAscii]

/-! ## Decimals of the pattern -/

theorem trimWhere_of_forall
    {dropped : Char → Bool}
    {text : List Char}
    (kept : ∀ character ∈ text, dropped character = false) :
    trimWhere dropped text = text := by
  have all
      {characters : List Char}
      (free : ∀ character ∈ characters, dropped character = false) :
      characters.dropWhile dropped = characters := by
    cases characters with
    | nil => rfl
    | cons first rest => simp [free first List.mem_cons_self]
  have reversed : ∀ character ∈ text.reverse, dropped character = false := by
    simpa using kept
  rw [trimWhere, all kept, all reversed, List.reverse_reverse]

/-- The digits of a text are of scripts that numerals know. -/
def HasKnownDigits (text : List Char) : Prop :=
  ∀ character ∈ text,
    isPatternDigit character = true → isDecimalDigit character = true

namespace CropEffect

/-- What the pattern takes for a decimal is one. -/
theorem isDecimalOf_of_isDecimal
    {text : List Char}
    (decimal : isDecimal text = true) :
    IsDecimalOf (isPatternDigit · = true) text := by
  simp only [isDecimal, Bool.and_eq_true, Bool.not_eq_true',
    List.isEmpty_eq_false_iff] at decimal
  obtain ⟨nonempty, fraction⟩ := decimal
  have areDigits :
      ∀ character ∈ text.takeWhile isPatternDigit,
        isPatternDigit character = true :=
    fun character member => List.mem_takeWhile_imp member
  have parts : text.takeWhile isPatternDigit ++ text.dropWhile isPatternDigit =
      text :=
    List.takeWhile_append_dropWhile
  split at fraction
  · rename_i noFraction
    rw [noFraction, List.append_nil] at parts
    rw [← parts]
    exact .whole nonempty areDigits
  · rename_i point digits isFraction
    simp only [Bool.and_eq_true, beq_iff_eq, List.all_eq_true] at fraction
    rw [isFraction, fraction.1.1] at parts
    rw [← parts]
    exact .pointed nonempty areDigits fraction.2

section Accepted

variable {text : List Char} (accepted : isDecimal text = true)

include accepted

theorem isDecimalOf_map_asciiDigit :
    IsDecimalOf IsDigitLike (text.map asciiDigit) :=
  (isDecimalOf_of_isDecimal accepted).map (by decide) fun _ isDigit =>
    (asciiDigit_isDigitLike isDigit).1

/-- A decimal of the pattern is read as what its digits become. -/
theorem readFloat?_plainNumeral :
    readFloat? (plainNumeral text) =
      readDecimal? false (text.map asciiDigit) := by
  have noSpace : ∀ character ∈ text, isSpace character = false := by
    intro character member
    rcases (isDecimalOf_of_isDecimal accepted).part member with
      isPoint | isDigit
    · rw [isPoint]
      decide
    · exact (plain_of_isPatternDigit isDigit).1
  have likeDecimal := isDecimalOf_map_asciiDigit accepted
  have noUnderscore : '_' ∉ text.map asciiDigit := by
    intro member
    rcases likeDecimal.part member with isPoint | digitLike
    · exact absurd isPoint (by decide)
    · exact digitLike.ne_of_ascii (by decide) (by decide) rfl
  obtain ⟨first, rest, shape, firstLike⟩ := likeDecimal.opens
  rw [plainNumeral, trimWhere_of_forall noSpace]
  rw [shape] at noUnderscore ⊢
  exact readFloat?_of_isDigitLike firstLike noUnderscore

/-- A decimal of the pattern is read exactly if its digits are known. -/
theorem floatOfText_isOk_iff :
    (∃ number, floatOfText (String.ofList text) = .ok number) ↔
      HasKnownDigits text := by
  have digitsRead :
      (∀ character ∈ text.map asciiDigit,
          character ≠ '.' → isAsciiDigit character = true) ↔
        HasKnownDigits text := by
    rw [List.forall_mem_map]
    refine forall₂_congr fun character member => ?_
    rcases (isDecimalOf_of_isDecimal accepted).part member with
      isPoint | isDigit
    · have point : asciiDigit '.' = '.' := by decide
      rw [isPoint, point]
      exact iff_of_true (fun notPoint => absurd rfl notPoint) (by decide)
    · have becomesDigit := asciiDigit_isDigitLike isDigit
      have notPoint : asciiDigit character ≠ '.' :=
        becomesDigit.1.ne_of_ascii (by decide) (by decide)
      simp only [notPoint, ne_eq, not_false_eq_true, true_imp_iff, isDigit]
      exact becomesDigit.2
  rw [← digitsRead,
    ← readDecimal?_isSome_iff (isDecimalOf_map_asciiDigit accepted) false,
    floatOfText, String.toList_ofList, readFloat?_plainNumeral accepted]
  cases readDecimal? false (text.map asciiDigit) <;> simp

end Accepted

end CropEffect

namespace AspectRatio

section Accepted

variable
  {text : String}
  (accepted : CropEffect.isAspectRatio text.toList = true)

include accepted

/-- An accepted aspect ratio is two decimals with the only colon between
them. -/
theorem exists_decimals :
    ∃ first second,
      text.toList = first ++ ':' :: second ∧
        splitAtChar ':' text.toList = [first, second] ∧
        (':' ∉ first ∧ ':' ∉ second) ∧
        CropEffect.isDecimal first = true ∧
        CropEffect.isDecimal second = true := by
  unfold CropEffect.isAspectRatio at accepted
  split at accepted
  · rename_i first second cut
    rw [Bool.and_eq_true] at accepted
    have whole := eq_of_cutAtChar?_eq_some cut
    have free
        {decimal : List Char}
        (isDecimal : CropEffect.isDecimal decimal = true) :
        ':' ∉ decimal := by
      intro member
      rcases (CropEffect.isDecimalOf_of_isDecimal isDecimal).part member with
        isPoint | isDigit
      · exact absurd isPoint (by decide)
      · exact (plain_of_isPatternDigit isDigit).2.1 rfl
    refine ⟨first, second, whole, ?_, ⟨free accepted.1, free accepted.2⟩,
      accepted⟩
    rw [whole, splitAtChar_append_cons (free accepted.1),
      splitAtChar_of_not_mem (free accepted.2)]
  · cases accepted

/-- An accepted aspect ratio is read exactly if its digits are known. -/
theorem read_isOk_iff :
    (∃ ratio, read text = .ok ratio) ↔ HasKnownDigits text.toList := by
  obtain ⟨first, second, whole, pieces, -, firstDecimal, secondDecimal⟩ :=
    exists_decimals accepted
  have known :
      HasKnownDigits text.toList ↔
        HasKnownDigits first ∧ HasKnownDigits second := by
    rw [whole]
    simp only [HasKnownDigits, List.forall_mem_append, List.forall_mem_cons]
    have colon : isPatternDigit ':' = false := by decide +kernel
    simp [colon]
  rw [known, ← CropEffect.floatOfText_isOk_iff firstDecimal,
    ← CropEffect.floatOfText_isOk_iff secondDecimal]
  unfold read
  rw [pieces]
  refine Outcome.bind_eq_ok_iff.trans ?_
  simp only [Outcome.bind_pure_eq_ok_iff, exists_and_right, ofNumeral,
    Outcome.mapError_eq_ok_iff]

end Accepted

end AspectRatio

end Montage
