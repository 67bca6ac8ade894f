import Mathlib.Algebra.Order.Ring.Rat
import Montage.Proofs.Effect.Ratio
import Montage.Proofs.Effect.Settled
import Montage.Proofs.Graph.Options
import Montage.Proofs.Number.Printed
import Montage.Proofs.Render.Apart
import Montage.Stage.Text

namespace Montage

/-!
# Colours of drawn texts

A filter takes a colour with one opacity at most. The colours of a text are
checked when it is read, but with the digits of all scripts; and the colour of
the box gets the opacity of the box, even if it has one of its own.
-/

/-! ## Colours as filters take them -/

/-- Six or eight hexadecimal digits. -/
structure IsHexadecimal (digits : List Char) : Prop where
  length : digits.length = 6 ∨ digits.length = 8
  areDigits : ∀ character ∈ digits, isHexDigit character = true

/-- A colour without opacity: a name, or digits behind `#` or `0x`. -/
inductive IsBaseColor : List Char → Prop
  | name
      {letters : List Char}
      (filled : letters ≠ [])
      (areLetters : ∀ character ∈ letters, isAsciiLetter character = true) :
      IsBaseColor letters
  | hash
      {digits : List Char}
      (isHexadecimal : IsHexadecimal digits) :
      IsBaseColor ('#' :: digits)
  | marked
      {digits : List Char}
      (isHexadecimal : IsHexadecimal digits) :
      IsBaseColor ('0' :: 'x' :: digits)

/-- A single number from zero to one. -/
def IsShare (text : List Char) : Prop :=
  ∃ decimal,
    takeDecimal? text = some (decimal, []) ∧ (decimal.value : ℚ) ≤ 1

/-- A colour, with its opacity behind `@` or without one. -/
inductive IsFilterColor : List Char → Prop
  | plain
      {base : List Char}
      (isBase : IsBaseColor base) :
      IsFilterColor base
  | shared
      {base share : List Char}
      (isBase : IsBaseColor base)
      (isShare : IsShare share) :
      IsFilterColor (base ++ '@' :: share)

/-! ## Their characters -/

/-- A text of ASCII characters. -/
def IsAscii (text : List Char) : Prop :=
  ∀ character ∈ text, character.toNat < 128

/-- Whether a character can stand in a colour, but for the mark of its
opacity. -/
def isColorCharacter (character : Char) : Bool :=
  isAsciiLetter character || isHexDigit character ||
    isNumeralCharacter character || character = '#'

theorem isAscii_of_isColorCharacter
    {character : Char}
    (isPart : isColorCharacter character = true) :
    character.toNat < 128 := by
  have bounded
      {limit : Char}
      (atMost : character ≤ limit)
      (isAscii : limit.toNat < 128) :
      character.toNat < 128 :=
    (UInt32.le_iff_toNat_le.mp (Char.le_def.mp atMost)).trans_lt isAscii
  simp only [isColorCharacter, isAsciiLetter, isHexDigit, isNumeralCharacter,
    isAsciiDigit, Bool.or_eq_true, Bool.and_eq_true, decide_eq_true_eq]
    at isPart
  rcases isPart with
    ((isLetter | isHex) | (⟨_, isDigit⟩ | isMark)) | isHash
  · rcases isLetter with ⟨_, large⟩ | ⟨_, small⟩
    · exact bounded large (by decide)
    · exact bounded small (by decide)
  · rcases isHex with (⟨_, isDigit⟩ | ⟨_, large⟩) | ⟨_, small⟩
    · exact bounded isDigit (by decide)
    · exact bounded large (by decide)
    · exact bounded small (by decide)
  · exact bounded isDigit (by decide)
  · have marks : ['.', 'e', 'E', '+', '-'].all (·.toNat < 128) = true := by
      decide
    exact of_decide_eq_true
      (List.all_eq_true.mp marks character (List.contains_iff_mem.mp isMark))
  · rw [isHash]
    decide

theorem IsBaseColor.isColorCharacter
    {base : List Char}
    (isBase : IsBaseColor base) :
    ∀ character ∈ base, isColorCharacter character = true := by
  have hexadecimal
      {digits : List Char}
      (isHexadecimal : IsHexadecimal digits) :
      ∀ character ∈ digits, Montage.isColorCharacter character = true :=
    fun character member => by
      simp [Montage.isColorCharacter,
        isHexadecimal.areDigits character member]
  cases isBase with
  | name _ areLetters =>
      intro character member
      simp [Montage.isColorCharacter, areLetters character member]
  | hash isHexadecimal =>
      exact List.forall_mem_cons.mpr ⟨rfl, hexadecimal isHexadecimal⟩
  | marked isHexadecimal =>
      exact List.forall_mem_cons.mpr
        ⟨rfl, List.forall_mem_cons.mpr ⟨rfl, hexadecimal isHexadecimal⟩⟩

theorem IsShare.isColorCharacter
    {share : List Char}
    (isShare : IsShare share) :
    ∀ character ∈ share, isColorCharacter character = true := by
  obtain ⟨decimal, isTaken, _⟩ := isShare
  intro character member
  simp [Montage.isColorCharacter,
    isNumeralCharacter_of_takeDecimal? isTaken member]

/-- Parts of colours have no mark. -/
theorem count_mark_eq_zero
    {text : List Char}
    (parts : ∀ character ∈ text, isColorCharacter character = true) :
    text.count '@' = 0 := by
  rw [List.count_eq_zero]
  intro member
  cases parts '@' member

namespace IsFilterColor

variable {text : List Char}

/-- A colour has one mark at most. -/
theorem count_mark_le (isColor : IsFilterColor text) : text.count '@' ≤ 1 := by
  cases isColor with
  | plain isBase => rw [count_mark_eq_zero isBase.isColorCharacter]; simp
  | shared isBase isShare =>
      rw [List.count_append, List.count_cons_self,
        count_mark_eq_zero isBase.isColorCharacter,
        count_mark_eq_zero isShare.isColorCharacter]

theorem isAscii (isColor : IsFilterColor text) : IsAscii text := by
  intro character member
  cases isColor with
  | plain isBase =>
      exact isAscii_of_isColorCharacter
        (isBase.isColorCharacter character member)
  | shared isBase isShare =>
      rw [List.mem_append, List.mem_cons] at member
      rcases member with inBase | isMark | inShare
      · exact isAscii_of_isColorCharacter
          (isBase.isColorCharacter character inBase)
      · rw [isMark]
        decide
      · exact isAscii_of_isColorCharacter
          (isShare.isColorCharacter character inShare)

end IsFilterColor

/-! ## Shares -/

/-- A fraction is at most one. -/
theorem value_fraction_le_one
    {digits : List Char}
    (areDigits : AreDigits digits) :
    (Decimal.value ⟨decimalValue digits, -digits.length⟩ : ℚ) ≤ 1 := by
  have positive : (0 : ℚ) < 10 ^ digits.length :=
    pow_pos (by norm_num) _
  rw [Decimal.value, zpow_neg, zpow_natCast, ← div_eq_mul_inv,
    div_le_one positive]
  exact_mod_cast (decimalValue_lt areDigits).le

/-- A digit that a pattern knows is one of ASCII or beyond it. -/
theorem isAsciiDigit_of_isPatternDigit
    {character : Char}
    (isDigit : isPatternDigit character = true)
    (isAscii : character.toNat < 128) :
    isAsciiDigit character = true := by
  have computed :
      ∀ code < 128,
        isPatternDigit (Char.ofNat code) = true →
          isAsciiDigit (Char.ofNat code) = true := by
    decide +kernel
  exact forall_of_ascii
    (fun character =>
      isPatternDigit character = true → isAsciiDigit character = true)
    computed isAscii isDigit

/-- Digits behind a point, with a zero in front of it or without one. -/
theorem isShare_fraction
    (count : Nat)
    {digits : List Char}
    (filled : digits ≠ [])
    (areDigits : ∀ character ∈ digits, isPatternDigit character = true)
    (isAscii : IsAscii digits) :
    IsShare (joinPlaces (List.replicate count '0') digits) := by
  have plain : AreDigits digits := fun character member =>
    isAsciiDigit_of_isPatternDigit (areDigits character member)
      (isAscii character member)
  have taken :=
    takeDecimal?_pointed (by simp [filled]) (areDigits_zeros count) plain
      endsNumeral_nil
  rw [List.append_nil, decimalValue_zeros_append] at taken
  exact ⟨_, taken, value_fraction_le_one plain⟩

/-- A one with zeros behind its point. -/
theorem isShare_one {count : Nat} (filled : 0 < count) :
    IsShare ('1' :: '.' :: List.replicate count '0') := by
  have layout :
      '1' :: '.' :: List.replicate count '0' =
        joinPlaces ['1'] (List.replicate count '0') := by
    simp [joinPlaces, filled.ne']
  have isDigit : AreDigits ['1'] := by
    simp only [AreDigits, List.forall_mem_singleton]
    rfl
  have taken :=
    takeDecimal?_pointed (by simp) isDigit (areDigits_zeros count)
      endsNumeral_nil
  rw [List.append_nil, decimalValue_append, decimalValue_zeros, Nat.add_zero,
    ← layout, List.length_replicate] at taken
  refine ⟨_, taken, ?_⟩
  rw [Decimal.value_shift]
  simp [Decimal.value, decimalValue, digitOf]

/-- A share in the form that is accepted, if its digits are those of ASCII. -/
theorem isShare_of_isAlpha
    {alpha : List Char}
    (isAlpha : ColorName.isAlpha alpha = true)
    (isAscii : IsAscii alpha) :
    IsShare alpha := by
  unfold ColorName.isAlpha at isAlpha
  split at isAlpha
  · exact ⟨⟨0, 0⟩, by decide +kernel, by simp [Decimal.value]⟩
  · exact ⟨⟨1, 0⟩, by decide +kernel, by simp [Decimal.value]⟩
  · rename_i zeros
    simp only [Bool.and_eq_true, Bool.not_eq_true', List.isEmpty_eq_false_iff,
      List.all_eq_true, beq_iff_eq] at isAlpha
    obtain ⟨filled, areZeros⟩ := isAlpha
    rw [List.eq_replicate_of_mem areZeros]
    exact isShare_one (List.length_pos_of_ne_nil filled)
  all_goals
    simp only [Bool.and_eq_true, Bool.not_eq_true', List.isEmpty_eq_false_iff,
      List.all_eq_true, Bool.false_eq_true] at isAlpha
  · rename_i digits
    obtain ⟨filled, areDigits⟩ := isAlpha
    have ascii : IsAscii digits := fun character member =>
      isAscii character (by simp [member])
    simpa [joinPlaces, filled] using isShare_fraction 1 filled areDigits ascii
  · rename_i digits
    obtain ⟨filled, areDigits⟩ := isAlpha
    have ascii : IsAscii digits := fun character member =>
      isAscii character (by simp [member])
    simpa [joinPlaces, filled] using isShare_fraction 0 filled areDigits ascii

/-- The text of a number from zero to one is a share. -/
theorem isShare_sixDigitText
    {units : Nat}
    (representable : Representable units)
    (atMost : units ≤ unitsPerOne) :
    IsShare (Binary64.finite false units representable).sixDigitText := by
  obtain ⟨decimal, taken, same⟩ :=
    takeDecimal?_sixDigitText ℚ representable endsNumeral_nil
  rw [List.append_nil] at taken
  refine ⟨decimal, taken, ?_⟩
  rw [same]
  exact sixDigitDecimal_le_one atMost

/-! ## Accepted colours -/

theorem isBaseColor_of_isBase
    {base : List Char}
    (isBase : ColorName.isBase base = true) :
    IsBaseColor base := by
  have hexadecimal
      {digits : List Char}
      (isHex : ColorName.isHexColor digits = true) :
      IsHexadecimal digits := by
    simp only [ColorName.isHexColor, Bool.and_eq_true, Bool.or_eq_true,
      beq_iff_eq, List.all_eq_true] at isHex
    exact ⟨isHex.1, isHex.2⟩
  unfold ColorName.isBase at isBase
  split at isBase
  · exact .hash (hexadecimal isBase)
  · exact .marked (hexadecimal isBase)
  · simp only [Bool.and_eq_true, Bool.not_eq_true', List.isEmpty_eq_false_iff,
      List.all_eq_true] at isBase
    exact .name isBase.1 isBase.2

/-- An accepted colour can be taken exactly if its digits are those of
ASCII. -/
theorem isFilterColor_iff
    {text : List Char}
    (accepted : ColorName.isColor text = true) :
    IsFilterColor text ↔ IsAscii text := by
  refine ⟨IsFilterColor.isAscii, fun isAscii => ?_⟩
  unfold ColorName.isColor at accepted
  split at accepted
  · rename_i base alpha cut
    rw [Bool.and_eq_true] at accepted
    have parts := eq_of_cutAtChar?_eq_some cut
    subst parts
    have ascii : IsAscii alpha := fun character member =>
      isAscii character (by simp [member])
    exact .shared (isBaseColor_of_isBase accepted.1)
      (isShare_of_isAlpha accepted.2 ascii)
  · exact .plain (isBaseColor_of_isBase accepted)

/-- An accepted colour with a share behind it can be taken exactly if it has
none of its own. -/
theorem isFilterColor_append_iff
    {text share : List Char}
    (accepted : ColorName.isColor text = true)
    (isShare : IsShare share) :
    IsFilterColor (text ++ '@' :: share) ↔ '@' ∉ text := by
  constructor
  · intro isColor member
    have one := isColor.count_mark_le
    have own := List.count_pos_iff.mpr member
    rw [List.count_append, List.count_cons_self] at one
    omega
  · intro free
    unfold ColorName.isColor at accepted
    split at accepted
    · rename_i base alpha cut
      rw [eq_of_cutAtChar?_eq_some cut] at free
      simp at free
    · exact .shared (isBaseColor_of_isBase accepted) isShare

/-! ## Accepted overlays -/

/-- The options of the drawing filter that are colours. -/
def colorKeys : List String :=
  ["fontcolor", "bordercolor", "boxcolor", "shadowcolor"]

namespace TextOverlay

/-- The colours of an overlay are written in ASCII where they are used, and
that of the box has no opacity of its own. -/
structure HasPlainColors (overlay : TextOverlay) : Prop where
  letters : IsAscii overlay.fontColor.toList
  outline : 0 < overlay.strokeWidth → IsAscii overlay.strokeColor.toList
  box : ∀ color ∈ overlay.backgroundColor, '@' ∉ color.toList
  shadow : ∀ color ∈ overlay.shadowColor, IsAscii color.toList

/-- What is sure about the colours of an accepted overlay. -/
structure HasColors (overlay : TextOverlay) : Prop where
  letters : ColorName.isColor overlay.fontColor.toList = true
  outline : ColorName.isColor overlay.strokeColor.toList = true
  box : ∀ color ∈ overlay.backgroundColor, ColorName.isColor color.toList = true
  shadow : ∀ color ∈ overlay.shadowColor, ColorName.isColor color.toList = true
  opacity : IsShare overlay.backgroundOpacity.sixDigitText

/-- An opacity that was read is the zero of its range, or is above zero. -/
theorem opacity_cases
    {fields : Fields}
    {opacity : Binary64}
    (isRead : backgroundOpacityParameter.read fields = .valid opacity) :
    opacity = 0 ∨ Binary64.less 0 opacity = true := by
  rcases Fields.withDefault_eq_valid isRead with isDefault | ⟨sent, isSent⟩
  · rw [isDefault]
    exact .inr (by decide +kernel)
  · obtain ⟨number, _, isClamped⟩ := Checked.map_eq_valid isSent
    rw [← isClamped]
    rcases Binary64.clamp_cases backgroundOpacityParameter.range number with
      isLow | ⟨isHigh, proper⟩ | ⟨isNumber, above, _⟩
    · exact .inl isLow
    · exact .inr (by rwa [← isHigh] at proper)
    · exact .inr (by rwa [← isNumber] at above)

/-- An opacity that was read is printed as a share. -/
theorem isShare_opacity
    {fields : Fields}
    {opacity : Binary64}
    (isRead : backgroundOpacityParameter.read fields = .valid opacity) :
    IsShare opacity.sixDigitText := by
  have holds :=
    Parameter.holds_of_read (by decide +kernel) (by decide +kernel) isRead
  have isFinite :=
    (holds.within_one (by decide +kernel) (by decide +kernel)).isFinite
  have isOne : (1 : Binary64).position = some (unitsPerOne : Int) := by
    decide +kernel
  have isZero : (0 : Binary64).position = some 0 := rfl
  obtain ⟨place, limit, isPlace, isLimit, atMost⟩ :=
    Binary64.atMost_iff.mp holds.high
  obtain rfl : (unitsPerOne : Int) = limit :=
    Option.some.inj (isOne.symm.trans isLimit)
  rcases opacity_cases isRead with rfl | above
  · exact isShare_sixDigitText representable_zero (Nat.zero_le _)
  · have positive : 0 < place := by
      simpa [Binary64.less, isZero, isPlace] using above
    lift place to Nat using positive.le
    obtain ⟨representable, rfl⟩ :=
      Binary64.eq_finite_of_position isFinite isPlace (by exact_mod_cast positive)
    exact isShare_sixDigitText representable (by exact_mod_cast atMost)

theorem hasColors_of_read
    {value : Json}
    {overlay : TextOverlay}
    (isRead : read value = .valid overlay) :
    overlay.HasColors := by
  obtain ⟨fields, isFields⟩ := readObject_eq_valid isRead
  obtain ⟨_, _, _, fontColor, strokeColor, _, _, background, opacity, _,
    shadow, _⟩ := readFields_eq_valid_iff.mp isFields
  have given
      {name default color : String}
      (isDefault : ColorName.isColor default.toList = true)
      (isColor :
        fields.withDefault name default ColorName.read = .valid color) :
      ColorName.isColor color.toList = true := by
    rcases Fields.withDefault_eq_valid isColor with same | ⟨sent, isSent⟩
    · rwa [same]
    · exact readMatching_eq_valid isSent
  have optional
      {name : String}
      {chosen : Option String}
      (isChosen : fields.optional name ColorName.read = .valid chosen) :
      ∀ color ∈ chosen, ColorName.isColor color.toList = true := by
    intro color isSome
    rw [Option.mem_def.mp isSome] at isChosen
    obtain ⟨sent, isSent⟩ := Fields.optional_eq_valid isChosen
    exact readMatching_eq_valid isSent
  exact {
    letters := given (by decide +kernel) fontColor
    outline := given (by decide +kernel) strokeColor
    box := optional background
    shadow := optional shadow
    opacity := isShare_opacity opacity }

section Told

variable (overlay : TextOverlay) (fontFile textFile : String)

theorem toldUnder_letters :
    (overlay.drawingFilter fontFile textFile).toldUnder? "fontcolor" =
      some overlay.fontColor := by
  rfl

theorem toldUnder_outline :
    (overlay.drawingFilter fontFile textFile).toldUnder? "bordercolor" =
      if 0 < overlay.strokeWidth then some overlay.strokeColor else none := by
  unfold Filter.toldUnder? Filter.told drawingFilter letterOptions boxOptions
    shadowOptions spacingOptions fadeOptions
  split
  · rfl
  · -- No later option has the key.
    cases overlay.backgroundColor.filter (! ·.isEmpty) <;>
      cases overlay.shadowColor.filter (! ·.isEmpty) <;>
      cases overlay.lineSpacing.filter (· ≠ 0) <;>
      cases overlay.animation <;> rfl

theorem toldUnder_box :
    (overlay.drawingFilter fontFile textFile).toldUnder? "boxcolor" =
      (overlay.backgroundColor.filter (! ·.isEmpty)).map fun color =>
        color ++ "@" ++
          String.ofList overlay.backgroundOpacity.sixDigitText := by
  unfold Filter.toldUnder? Filter.told drawingFilter letterOptions boxOptions
    shadowOptions spacingOptions fadeOptions
  cases overlay.backgroundColor.filter (! ·.isEmpty) with
  | some color => split <;> rfl
  | none =>
      cases overlay.shadowColor.filter (! ·.isEmpty) <;>
        cases overlay.lineSpacing.filter (· ≠ 0) <;>
        cases overlay.animation <;> split <;> rfl

theorem toldUnder_shadow :
    (overlay.drawingFilter fontFile textFile).toldUnder? "shadowcolor" =
      overlay.shadowColor.filter (! ·.isEmpty) := by
  unfold Filter.toldUnder? Filter.told drawingFilter letterOptions boxOptions
    shadowOptions spacingOptions fadeOptions
  cases overlay.backgroundColor.filter (! ·.isEmpty) <;>
    cases overlay.shadowColor.filter (! ·.isEmpty) <;>
    cases overlay.lineSpacing.filter (· ≠ 0) <;>
    cases overlay.animation <;> split <;> rfl

end Told

/-- No accepted colour is empty, so every one is used. -/
theorem filter_isEmpty
    {chosen : Option String}
    (colors : ∀ color ∈ chosen, ColorName.isColor color.toList = true) :
    chosen.filter (! ·.isEmpty) = chosen := by
  cases chosen with
  | none => rfl
  | some color =>
      have isColor := colors color rfl
      have filled : color.isEmpty = false := by
        rw [Bool.eq_false_iff]
        intro isEmpty
        rw [String.isEmpty_iff.mp isEmpty] at isColor
        cases isColor
      simp [Option.filter, filled]

end TextOverlay

/--
The colours of an accepted overlay can all be taken by the filter exactly if
they are written in ASCII and the colour of the box has no opacity of its own.
-/
theorem colors_are_well_formed_iff
    {value : Json}
    {overlay : TextOverlay}
    (isRead : TextOverlay.read value = .valid overlay)
    (fontFile textFile : String) :
    (∀ key ∈ colorKeys,
      ∀ text ∈ (overlay.drawingFilter fontFile textFile).toldUnder? key,
        IsFilterColor text.toList) ↔
      overlay.HasPlainColors := by
  have colors := TextOverlay.hasColors_of_read isRead
  have boxed (color : String) :
      (color ++ "@" ++
          String.ofList overlay.backgroundOpacity.sixDigitText).toList =
        color.toList ++ '@' :: overlay.backgroundOpacity.sixDigitText := by
    simp
  simp only [colorKeys, List.forall_mem_cons, List.not_mem_nil,
    false_implies, implies_true, and_true, overlay.toldUnder_letters,
    overlay.toldUnder_outline, overlay.toldUnder_box, overlay.toldUnder_shadow,
    TextOverlay.filter_isEmpty colors.box,
    TextOverlay.filter_isEmpty colors.shadow]
  constructor
  · rintro ⟨letters, outline, box, shadow⟩
    exact {
      letters := (letters _ rfl).isAscii
      outline := fun stroked => (outline _ (by simp [stroked])).isAscii
      box := by
        intro color isChosen
        have isColor := box _ (Option.mem_map_of_mem _ isChosen)
        rw [boxed] at isColor
        exact (isFilterColor_append_iff (colors.box color isChosen)
          colors.opacity).mp isColor
      shadow := fun color isChosen => (shadow color isChosen).isAscii }
  · intro plain
    refine ⟨?_, ?_, ?_, ?_⟩
    · intro text isText
      rw [← Option.mem_some.mp isText]
      exact (isFilterColor_iff colors.letters).mpr plain.letters
    · intro text isText
      split at isText
      · rename_i stroked
        rw [← Option.mem_some.mp isText]
        exact (isFilterColor_iff colors.outline).mpr (plain.outline stroked)
      · cases isText
    · intro text isText
      obtain ⟨color, isChosen, rfl⟩ := Option.mem_map.mp isText
      rw [boxed]
      exact (isFilterColor_append_iff (colors.box color isChosen)
        colors.opacity).mpr (plain.box color isChosen)
    · intro text isText
      exact (isFilterColor_iff (colors.shadow text isText)).mpr
        (plain.shadow text isText)

/-- A text in a box whose colour has an opacity. -/
def boxedCaption : TextOverlay where
  text := "a"
  backgroundColor := some "black@0.5"

/-- The colour of the box gets a second opacity. -/
theorem boxed_caption_has_two_opacities :
    TextOverlay.read
        (.object [("text", .text "a"), ("bg_color", .text "black@0.5")]) =
      .valid boxedCaption ∧
    (boxedCaption.drawingFilter "a.ttf" "a.txt").toldUnder? "boxcolor" =
      some "black@0.5@0.6" ∧
    ¬ ∀ key ∈ colorKeys,
      ∀ text ∈ (boxedCaption.drawingFilter "a.ttf" "a.txt").toldUnder? key,
        IsFilterColor text.toList := by
  have isRead :
      TextOverlay.read
          (.object [("text", .text "a"), ("bg_color", .text "black@0.5")]) =
        .valid boxedCaption := by
    rfl
  refine ⟨isRead, by decide +kernel, ?_⟩
  rw [colors_are_well_formed_iff isRead]
  intro plain
  exact plain.box "black@0.5" rfl (by decide)

end Montage
