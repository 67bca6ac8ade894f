import Mathlib.Data.List.Basic
import Montage.Text.Utf8

namespace Montage

/-!
# Reading UTF-8 back

The bytes of a character are read as that character. Bytes that were left open
before it count as one replacement character, because no first byte of a
character can go on with them. Read strictly, bytes are a text exactly if they
are the bytes of one.
-/

/-- A character is open with a range of bytes that go on with it. -/
structure PartialCharacter.IsOpen (opened : PartialCharacter) : Prop where
  least : 0x80 ≤ opened.least
  greatest : opened.greatest ≤ 0xBF

/-- What stands for bytes that were left open. -/
def leftOpen (opened : Option PartialCharacter) : List Char :=
  if opened.isSome then [replacementCharacter] else []

/-! ## First bytes -/

/-- The first byte of a character of two bytes. -/
theorem startCharacter?_of_two :
    ∀ bits < 32,
      2 ≤ bits →
        startCharacter? (bits + 0xC0) = some ⟨1, 0x80, 0xBF, bits⟩ := by
  decide

/-- The first byte of a character of three bytes. -/
theorem startCharacter?_of_three :
    ∀ bits < 16,
      startCharacter? (bits + 0xE0) =
        some ⟨2,
          if bits = 0 then 0xA0 else 0x80,
          if bits = 13 then 0x9F else 0xBF,
          bits⟩ := by
  decide

/-- The first byte of a character of four bytes. -/
theorem startCharacter?_of_four :
    ∀ bits < 5,
      startCharacter? (bits + 0xF0) =
        some ⟨3,
          if bits = 0 then 0x90 else 0x80,
          if bits = 4 then 0x8F else 0xBF,
          bits⟩ := by
  decide

theorem startCharacter?_isOpen
    {byte : Nat}
    {opened : PartialCharacter}
    (starts : startCharacter? byte = some opened) :
    opened.IsOpen := by
  unfold startCharacter? at starts
  grind [PartialCharacter.IsOpen]

theorem startByte_isOpen
    (byte : Nat)
    {opened : PartialCharacter}
    (isLeft : (startByte byte).2 = some opened) :
    opened.IsOpen := by
  unfold startByte at isLeft
  split at isLeft
  · cases isLeft
  · split at isLeft
    case h_1 starts =>
      cases isLeft
      exact startCharacter?_isOpen starts
    case h_2 => cases isLeft

theorem nextByte_isOpen
    {before : PartialCharacter}
    (byte : Nat)
    {opened : PartialCharacter}
    (isLeft : (nextByte before byte).2 = some opened) :
    opened.IsOpen := by
  unfold nextByte at isLeft
  split at isLeft
  · split at isLeft
    · cases isLeft
    · cases isLeft
      exact ⟨Nat.le_refl _, Nat.le_refl _⟩
  · exact startByte_isOpen byte isLeft

/-- A byte that starts a character is no further one. -/
theorem startCharacter?_large
    {byte : Nat}
    {opened : PartialCharacter}
    (starts : startCharacter? byte = some opened) :
    0xBF < byte := by
  unfold startCharacter? at starts
  grind

/-! ## One byte after another -/

/-- Further bytes that make an open character whole. -/
inductive PartialCharacter.Completes : PartialCharacter → Bytes → Char → Prop
  | last
      {opened : PartialCharacter}
      {byte : UInt8}
      (isLast : opened.missing ≤ 1)
      (least : opened.least ≤ byte.toNat)
      (greatest : byte.toNat ≤ opened.greatest) :
      Completes opened [byte]
        (Char.ofNat (opened.bits * 64 + (byte.toNat - 0x80)))
  | further
      {opened : PartialCharacter}
      {byte : UInt8}
      {others : Bytes}
      {character : Char}
      (more : 1 < opened.missing)
      (least : opened.least ≤ byte.toNat)
      (greatest : byte.toNat ≤ opened.greatest)
      (rest :
        Completes
          ⟨opened.missing - 1, 0x80, 0xBF,
            opened.bits * 64 + (byte.toNat - 0x80)⟩
          others character) :
      Completes opened (byte :: others) character

namespace PartialCharacter.Completes

variable {opened : PartialCharacter} {others : Bytes} {character : Char}

/-- Bytes that complete an open character are read as that character. -/
theorem decodeFrom_append
    (completes : opened.Completes others character)
    (rest : Bytes) :
    decodeFrom (some opened) (others ++ rest) =
      character :: decodeFrom none rest := by
  induction completes with
  | last isLast least greatest =>
      simp only [List.cons_append, decodeFrom, nextByte, least, greatest,
        and_self, ↓reduceIte, isLast, List.nil_append]
  | further more least greatest _ inductionHypothesis =>
      simp only [List.cons_append, decodeFrom, nextByte, least, greatest,
        and_self, ↓reduceIte, Nat.not_le.mpr more, List.nil_append,
        inductionHypothesis]

/-- A strict reading goes on behind a character that is completed. -/
theorem faultFrom?_append
    (completes : opened.Completes others character)
    (start : Nat)
    (before rest : Bytes) :
    faultFrom? start before (some opened) (others ++ rest) =
      faultFrom? (start + before.length + others.length) [] none rest := by
  induction completes generalizing before with
  | last isLast least greatest =>
      simp only [List.cons_append, faultFrom?, nextByte, least, greatest,
        and_self, ↓reduceIte, isLast, List.nil_append,
        List.length_singleton]
  | further more least greatest _ inductionHypothesis =>
      simp only [List.cons_append, faultFrom?, nextByte, least, greatest,
        and_self, ↓reduceIte, Nat.not_le.mpr more, inductionHypothesis,
        List.length_append, List.length_cons, List.length_nil]
      congr 1
      omega

end PartialCharacter.Completes

/-- A byte that is no further one starts anew. -/
theorem decodeFrom_anew
    {opened : Option PartialCharacter}
    (isOpen : ∀ started, opened = some started → started.IsOpen)
    {byte : UInt8}
    (notFurther : byte.toNat < 0x80 ∨ 0xBF < byte.toNat)
    (rest : Bytes) :
    decodeFrom opened (byte :: rest) =
      leftOpen opened ++ decodeFrom none (byte :: rest) := by
  cases opened with
  | none => rfl
  | some started =>
      have stands := isOpen started rfl
      have notNext :
          ¬(started.least ≤ byte.toNat ∧ byte.toNat ≤ started.greatest) := by
        have := stands.least
        have := stands.greatest
        omega
      simp [decodeFrom, nextByte, notNext, leftOpen]

/-! ## Characters -/

/-- The number of a character is none of a surrogate. -/
theorem toNat_isValid (character : Char) :
    character.toNat < 0xD800 ∨
      0xDFFF < character.toNat ∧ character.toNat < 0x110000 :=
  character.valid

/-- Bits that lead to a number complete the character of the number. -/
theorem PartialCharacter.Completes.last_of_number
    {opened : PartialCharacter}
    {byte : UInt8}
    {character : Char}
    (isLast : opened.missing ≤ 1)
    (least : opened.least ≤ byte.toNat)
    (greatest : byte.toNat ≤ opened.greatest)
    (number : opened.bits * 64 + (byte.toNat - 0x80) = character.toNat) :
    opened.Completes [byte] character := by
  have completes := PartialCharacter.Completes.last isLast least greatest
  rwa [number, Char.ofNat_toNat] at completes

/-- The bytes of a character: one alone, or one that starts it and those that
complete it. -/
theorem utf8EncodeChar_cases (character : Char) :
    (∃ byte : UInt8,
      String.utf8EncodeChar character = [byte] ∧
        byte.toNat < 0x80 ∧
        byte.toNat = character.toNat) ∨
    ∃ (byte : UInt8) (opened : PartialCharacter) (others : Bytes),
      String.utf8EncodeChar character = byte :: others ∧
        startCharacter? byte.toNat = some opened ∧
        opened.Completes others character := by
  have isValid := toNat_isValid character
  have furtherByte (bits : Nat) :
      (UInt8.ofNat (bits % 64 + 0x80)).toNat = bits % 64 + 0x80 :=
    UInt8.toNat_ofNat_of_lt' (show _ < 256 by omega)
  unfold String.utf8EncodeChar
  simp only [Char.toNat_val]
  split
  case isTrue isOne =>
    have number :
        (UInt8.ofNat character.toNat).toNat = character.toNat :=
      UInt8.toNat_ofNat_of_lt' (Nat.lt_of_le_of_lt isOne (by decide))
    exact .inl ⟨_, rfl, by omega, number⟩
  case isFalse notOne =>
  right
  split
  case isTrue isTwo =>
    have starts :=
      startCharacter?_of_two (character.toNat / 64 % 32) (by omega) (by omega)
    have firstByte :
        (UInt8.ofNat (character.toNat / 64 % 32 + 0xC0)).toNat =
          character.toNat / 64 % 32 + 0xC0 :=
      UInt8.toNat_ofNat_of_lt' (show _ < 256 by omega)
    refine ⟨_, _, _, rfl, firstByte ▸ starts,
      .last_of_number (Nat.le_refl 1) ?_ ?_ ?_⟩
    all_goals
      rw [furtherByte]
      simp only
      omega
  case isFalse notTwo =>
  split
  case isTrue isThree =>
    have starts :=
      startCharacter?_of_three (character.toNat / 4096 % 16) (by omega)
    have firstByte :
        (UInt8.ofNat (character.toNat / 4096 % 16 + 0xE0)).toNat =
          character.toNat / 4096 % 16 + 0xE0 :=
      UInt8.toNat_ofNat_of_lt' (show _ < 256 by omega)
    refine ⟨_, _, _, rfl, firstByte ▸ starts,
      .further Nat.one_lt_two ?_ ?_ (.last_of_number (by simp) ?_ ?_ ?_)⟩
    all_goals
      simp only [furtherByte]
      first
      | omega
      | (split <;> omega)
  case isFalse notThree =>
    have starts :=
      startCharacter?_of_four (character.toNat / 262144 % 8) (by omega)
    have firstByte :
        (UInt8.ofNat (character.toNat / 262144 % 8 + 0xF0)).toNat =
          character.toNat / 262144 % 8 + 0xF0 :=
      UInt8.toNat_ofNat_of_lt' (show _ < 256 by omega)
    refine ⟨_, _, _, rfl, firstByte ▸ starts,
      .further (by simp) ?_ ?_
        (.further (by simp) ?_ ?_ (.last_of_number (by simp) ?_ ?_ ?_))⟩
    all_goals
      simp only [furtherByte]
      first
      | omega
      | (split <;> omega)

/-- The bytes of a character are read as that character. -/
theorem decodeFrom_none_utf8EncodeChar
    (character : Char)
    (rest : Bytes) :
    decodeFrom none (String.utf8EncodeChar character ++ rest) =
      character :: decodeFrom none rest := by
  obtain ⟨byte, isEncoded, isAscii, number⟩ |
      ⟨byte, opened, others, isEncoded, starts, completes⟩ :=
    utf8EncodeChar_cases character
  · rw [isEncoded]
    simp only [List.cons_append, List.nil_append, decodeFrom, startByte,
      isAscii, ↓reduceIte]
    rw [number, Char.ofNat_toNat]
  · have large := startCharacter?_large starts
    have notAscii : ¬ byte.toNat < 0x80 := by omega
    rw [isEncoded]
    simp only [List.cons_append, decodeFrom, startByte, notAscii, ↓reduceIte,
      starts, List.nil_append]
    exact completes.decodeFrom_append rest

/-- A strict reading goes on behind the bytes of a character. -/
theorem faultFrom?_utf8EncodeChar
    (start : Nat)
    (character : Char)
    (rest : Bytes) :
    faultFrom? start [] none (String.utf8EncodeChar character ++ rest) =
      faultFrom? (start + (String.utf8EncodeChar character).length) [] none
        rest := by
  obtain ⟨byte, isEncoded, isAscii, -⟩ |
      ⟨byte, opened, others, isEncoded, starts, completes⟩ :=
    utf8EncodeChar_cases character
  · rw [isEncoded]
    simp only [List.cons_append, List.nil_append, faultFrom?, isAscii,
      ↓reduceIte, List.length_singleton]
  · have large := startCharacter?_large starts
    have notAscii : ¬ byte.toNat < 0x80 := by omega
    rw [isEncoded]
    simp only [List.cons_append, faultFrom?, notAscii, ↓reduceIte, starts,
      completes.faultFrom?_append, List.length_cons, List.length_nil]
    congr 1
    omega

/-- No first byte of a character goes on with another. -/
theorem utf8EncodeChar_eq_cons (character : Char) :
    ∃ first others,
      String.utf8EncodeChar character = first :: others ∧
      (first.toNat < 0x80 ∨ 0xBF < first.toNat) := by
  obtain ⟨byte, isEncoded, isAscii, -⟩ |
      ⟨byte, opened, others, isEncoded, starts, -⟩ :=
    utf8EncodeChar_cases character
  · exact ⟨byte, [], isEncoded, .inl isAscii⟩
  · exact ⟨byte, others, isEncoded, .inr (startCharacter?_large starts)⟩

/-- What was left open before a character is one replacement character. -/
theorem decodeFrom_utf8EncodeChar
    {opened : Option PartialCharacter}
    (isOpen : ∀ started, opened = some started → started.IsOpen)
    (character : Char)
    (rest : Bytes) :
    decodeFrom opened (String.utf8EncodeChar character ++ rest) =
      leftOpen opened ++ character :: decodeFrom none rest := by
  obtain ⟨first, others, bytes, notFurther⟩ := utf8EncodeChar_eq_cons character
  have anew :
      decodeFrom opened (String.utf8EncodeChar character ++ rest) =
        leftOpen opened ++
          decodeFrom none (String.utf8EncodeChar character ++ rest) := by
    rw [bytes, List.cons_append]
    exact decodeFrom_anew isOpen notFurther _
  rw [anew, decodeFrom_none_utf8EncodeChar]

/-- Every text is read back from its bytes. -/
theorem decodeUtf8_encodeUtf8 (text : List Char) :
    decodeUtf8 (encodeUtf8 text) = text := by
  unfold decodeUtf8 encodeUtf8
  induction text with
  | nil => rfl
  | cons character rest inductionHypothesis =>
      rw [List.flatMap_cons, decodeFrom_none_utf8EncodeChar,
        inductionHypothesis]

/-! ## Strict reading -/

/-- The bytes of a text are read to their end. -/
theorem faultFrom?_encodeUtf8
    (start : Nat)
    (text : List Char) :
    faultFrom? start [] none (encodeUtf8 text) = none := by
  induction text generalizing start with
  | nil => rfl
  | cons character rest inductionHypothesis =>
      rw [encodeUtf8, List.flatMap_cons, faultFrom?_utf8EncodeChar]
      exact inductionHypothesis _

/-- Bytes that are read strictly to their end complete what is open. -/
theorem exists_completes_of_faultFrom?
    {start : Nat}
    {before bytes : Bytes}
    {opened : PartialCharacter}
    (isText : faultFrom? start before (some opened) bytes = none) :
    ∃ (others rest : Bytes) (character : Char) (place : Nat),
      bytes = others ++ rest ∧
        opened.Completes others character ∧
        faultFrom? place [] none rest = none := by
  induction bytes generalizing before opened with
  | nil => cases isText
  | cons byte rest inductionHypothesis =>
      simp only [faultFrom?, nextByte] at isText
      split at isText
      · rename_i fits
        by_cases isLast : opened.missing ≤ 1
        · simp only [isLast, ↓reduceIte] at isText
          exact ⟨[byte], rest, _, _, rfl, .last isLast fits.1 fits.2, isText⟩
        · simp only [isLast, ↓reduceIte] at isText
          obtain ⟨others, later, character, place, rfl, completes, goesOn⟩ :=
            inductionHypothesis isText
          exact ⟨byte :: others, later, character, place, rfl,
            .further (Nat.not_le.mp isLast) fits.1 fits.2 completes, goesOn⟩
      · cases isText

/-- The character of a number that is none of a surrogate. -/
theorem toNat_ofNat_of_isValid
    {number : Nat}
    (isValid :
      number < 0xD800 ∨ 0xDFFF < number ∧ number < 0x110000) :
    (Char.ofNat number).toNat = number := by
  have isCharacter : number.isValidChar := isValid
  rw [Char.ofNat, dif_pos isCharacter]
  rfl

/-- What the first byte of a character tells, by the number of its bytes. -/
theorem startCharacter?_cases
    {byte : Nat}
    {opened : PartialCharacter}
    (starts : startCharacter? byte = some opened) :
    (∃ bits, 2 ≤ bits ∧ bits < 32 ∧ byte = bits + 0xC0 ∧
      opened = ⟨1, 0x80, 0xBF, bits⟩) ∨
    (∃ bits, bits < 16 ∧ byte = bits + 0xE0 ∧
      opened =
        ⟨2,
          if bits = 0 then 0xA0 else 0x80,
          if bits = 13 then 0x9F else 0xBF,
          bits⟩) ∨
    ∃ bits, bits < 5 ∧ byte = bits + 0xF0 ∧
      opened =
        ⟨3,
          if bits = 0 then 0x90 else 0x80,
          if bits = 4 then 0x8F else 0xBF,
          bits⟩ := by
  have isStart : 0xC2 ≤ byte ∧ byte ≤ 0xF4 := by
    unfold startCharacter? at starts
    grind
  by_cases isTwo : byte < 0xE0
  · have known := startCharacter?_of_two (byte - 0xC0) (by omega) (by omega)
    rw [Nat.sub_add_cancel (by omega), starts] at known
    exact .inl
      ⟨byte - 0xC0, by omega, by omega, by omega, Option.some.inj known⟩
  by_cases isThree : byte < 0xF0
  · have known := startCharacter?_of_three (byte - 0xE0) (by omega)
    rw [Nat.sub_add_cancel (by omega), starts] at known
    exact .inr (.inl ⟨byte - 0xE0, by omega, by omega, Option.some.inj known⟩)
  · have known := startCharacter?_of_four (byte - 0xF0) (by omega)
    rw [Nat.sub_add_cancel (by omega), starts] at known
    exact .inr (.inr ⟨byte - 0xF0, by omega, by omega, Option.some.inj known⟩)

/-- A byte that starts a character and those that complete it are its bytes. -/
theorem utf8EncodeChar_of_completes
    {byte : UInt8}
    {opened : PartialCharacter}
    {others : Bytes}
    {character : Char}
    (starts : startCharacter? byte.toNat = some opened)
    (completes : opened.Completes others character) :
    String.utf8EncodeChar character = byte :: others := by
  have isByte (number : Nat) (byte : UInt8) (same : number = byte.toNat) :
      UInt8.ofNat number = byte := by
    rw [same, UInt8.ofNat_toNat]
  unfold String.utf8EncodeChar
  simp only [Char.toNat_val]
  obtain ⟨bits, large, small, number, rfl⟩ | ⟨bits, small, number, rfl⟩ |
      ⟨bits, small, number, rfl⟩ :=
    startCharacter?_cases starts
  · cases completes with
    | further more => simp at more
    | @last _ second isLast least greatest =>
        simp only at least greatest ⊢
        rw [toNat_ofNat_of_isValid (.inl (by omega)), if_neg (by omega),
          if_pos (by omega), isByte _ byte (by omega),
          isByte _ second (by omega)]
  · cases completes with
    | last isLast => simp at isLast
    | @further _ second _ _ more least greatest rest =>
    cases rest with
    | further more => simp at more
    | @last _ third isLast lowest highest =>
        simp only at least greatest lowest highest ⊢
        generalize isNumber :
          (bits * 64 + (second.toNat - 0x80)) * 64 + (third.toNat - 0x80) =
            number
        have isFurther : 0x80 ≤ second.toNat ∧ second.toNat ≤ 0xBF := by
          constructor
          · split at least <;> omega
          · split at greatest <;> omega
        have long : 0x7FF < number := by split at least <;> omega
        have isValid : number < 0xD800 ∨ 0xDFFF < number := by
          split at greatest <;> omega
        rw [toNat_ofNat_of_isValid (by omega), if_neg (by omega),
          if_neg (by omega), if_pos (by omega), isByte _ byte (by omega),
          isByte _ second (by omega), isByte _ third (by omega)]
  · cases completes with
    | last isLast => simp at isLast
    | @further _ second _ _ more least greatest rest =>
    cases rest with
    | last isLast => simp at isLast
    | @further _ third _ _ more lowest highest rest =>
    cases rest with
    | further more => simp at more
    | @last _ fourth isLast lower higher =>
        simp only at least greatest lowest highest lower higher ⊢
        generalize isNumber :
          ((bits * 64 + (second.toNat - 0x80)) * 64 + (third.toNat - 0x80)) *
              64 + (fourth.toNat - 0x80) =
            number
        have isFurther : 0x80 ≤ second.toNat ∧ second.toNat ≤ 0xBF := by
          constructor
          · split at least <;> omega
          · split at greatest <;> omega
        have long : 0xFFFF < number := by split at least <;> omega
        have isValid : number < 0x110000 := by split at greatest <;> omega
        rw [toNat_ofNat_of_isValid (by omega), if_neg (by omega),
          if_neg (by omega), if_neg (by omega), isByte _ byte (by omega),
          isByte _ second (by omega), isByte _ third (by omega),
          isByte _ fourth (by omega)]

/-- Bytes that are read strictly to their end are those of a text. -/
theorem encodeUtf8_decodeUtf8
    {start : Nat}
    {bytes : Bytes}
    (isText : faultFrom? start [] none bytes = none) :
    encodeUtf8 (decodeUtf8 bytes) = bytes := by
  -- By induction on the length, one character after the other.
  induction length : bytes.length using Nat.strongRecOn
    generalizing start bytes with
  | ind count inductionHypothesis =>
  subst length
  cases bytes with
  | nil => rfl
  | cons byte rest =>
      have goesOn
          (character : Char)
          {others : Bytes}
          {place : Nat}
          (isEncoded :
            byte :: rest = String.utf8EncodeChar character ++ others)
          (isText : faultFrom? place [] none others = none) :
          encodeUtf8 (decodeUtf8 (byte :: rest)) = byte :: rest := by
        obtain ⟨first, further, isFirst, -⟩ := utf8EncodeChar_eq_cons character
        have shorter : others.length < (byte :: rest).length := by
          rw [isEncoded, isFirst, List.length_append, List.length_cons]
          omega
        rw [isEncoded, decodeUtf8, decodeFrom_none_utf8EncodeChar, encodeUtf8,
          List.flatMap_cons]
        exact congrArg _ (inductionHypothesis _ shorter isText rfl)
      simp only [faultFrom?] at isText
      split at isText
      · rename_i isAscii
        have number :
            (Char.ofNat byte.toNat).toNat = byte.toNat :=
          toNat_ofNat_of_isValid (.inl (by omega))
        refine goesOn (Char.ofNat byte.toNat) ?_ isText
        rw [String.utf8EncodeChar]
        simp only [Char.toNat_val, number]
        rw [if_pos (by omega), UInt8.ofNat_toNat]
        rfl
      · split at isText
        · rename_i starts
          obtain ⟨others, later, character, place, rfl, completes, isText⟩ :=
            exists_completes_of_faultFrom? isText
          refine goesOn character ?_ isText
          rw [utf8EncodeChar_of_completes starts completes]
          rfl
        · cases isText

/-- Bytes are read strictly as a text exactly if they are its bytes. -/
theorem strictTextOf_eq_ok_iff
    {bytes : Bytes}
    {text : String} :
    strictTextOf bytes = .ok text ↔ bytes = bytesOf text := by
  constructor
  · intro isText
    unfold strictTextOf at isText
    split at isText
    · cases isText
    · rename_i noFault
      cases isText
      rw [bytesOf, textOf, String.toList_ofList, encodeUtf8_decodeUtf8 noFault]
  · rintro rfl
    rw [strictTextOf, bytesOf, faultFrom?_encodeUtf8]
    simp only [textOf, decodeUtf8_encodeUtf8, String.ofList_toList]

end Montage
