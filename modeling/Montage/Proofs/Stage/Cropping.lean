import Mathlib.Algebra.Order.Field.Basic
import Mathlib.Algebra.Order.Ring.Rat
import Mathlib.Data.List.Basic
import Mathlib.Tactic.FieldSimp
import Mathlib.Tactic.Linarith
import Mathlib.Tactic.NormNum
import Mathlib.Tactic.Positivity
import Mathlib.Tactic.Ring
import Montage.Proofs.Expression.Spelled
import Montage.Proofs.Graph.Options
import Montage.Proofs.Number.Nearest
import Montage.Proofs.Number.Written
import Montage.Proofs.Render.Flat
import Montage.Stage.Crop

namespace Montage

/-!
# Frames that are cut to an aspect ratio

The sides of a frame are cut if it is wider than the wanted ratio, and else its
top and bottom. What remains is given by expressions of the size of the frame.
Where they are computed exactly, it is the largest part of the frame that has
the ratio. The two shapes are compared as rounded numbers, which tells them
apart unless they differ by next to nothing.
-/

/-! ## Parts of a frame -/

/-- A part of a frame: its size, and where it starts. -/
structure CropRectangle where
  width : ℚ
  height : ℚ
  left : ℚ
  top : ℚ
deriving DecidableEq

namespace CropRectangle

/-- A part that is not empty and does not leave the frame. -/
structure Fits (rectangle : CropRectangle) (width height : ℚ) : Prop where
  wide : 0 < rectangle.width
  high : 0 < rectangle.height
  left : 0 ≤ rectangle.left
  top : 0 ≤ rectangle.top
  right : rectangle.left + rectangle.width ≤ width
  bottom : rectangle.top + rectangle.height ≤ height

/-- The largest part of a frame with a ratio: it reaches from side to side or
from top to bottom, and no other with the ratio is wider or higher. -/
structure IsLargest
    (rectangle : CropRectangle)
    (width height ratio : ℚ) :
    Prop where
  fits : rectangle.Fits width height
  shape : rectangle.width / rectangle.height = ratio
  reaches : rectangle.width = width ∨ rectangle.height = height
  largest :
    ∀ other : CropRectangle,
      other.Fits width height →
      other.width / other.height = ratio →
      other.width ≤ rectangle.width ∧ other.height ≤ rectangle.height

/-- A part that is placed in its frame: in the middle, or at the left side and
at the upper or lower edge. -/
def IsPlaced
    (rectangle : CropRectangle)
    (width height : ℚ) :
    CropPosition → Prop
  | .center =>
      rectangle.left = (width - rectangle.width) / 2 ∧
        rectangle.top = (height - rectangle.height) / 2
  | .top => rectangle.left = 0 ∧ rectangle.top = 0
  | .bottom =>
      rectangle.left = 0 ∧ rectangle.top = height - rectangle.height

end CropRectangle

/-- What the crop filter knows while it evaluates an expression: the size of the
frame. -/
def frameQuantity? (width height : ℚ) : String → Option ℚ
  | "iw" => some width
  | "ih" => some height
  | _ => none

/-- The part of a frame that a crop filter keeps. -/
def Filter.rectangle?
    (filter : Filter)
    (width height : ℚ) :
    Option CropRectangle :=
  let value? (text : String) :=
    evaluate? (frameQuantity? width height) text
  match filter.arguments.map OptionValue.told with
  | [keptWidth, keptHeight, left, top] => do
      pure {
        width := ← value? keptWidth
        height := ← value? keptHeight
        left := ← value? left
        top := ← value? top }
  | _ => none

/-- A number that was read from a text is printed exactly: what is printed
denotes the same as the text, or else the number itself. -/
structure Binary64.IsPrintedExactly
    (number : Binary64)
    (written : List Char)
    (value : ℚ) :
    Prop where
  printed : Denotes number.sixDigitText value
  meant : Denotes (written.map asciiDigit) value ∨ number.exact = value

namespace AspectRatio

/-- A ratio that was read from a text, and whose two numbers are printed
exactly. -/
structure IsPrintedExactly
    (ratio : AspectRatio)
    (text : String)
    (horizontal vertical : ℚ) :
    Prop where
  isRead : AspectRatio.read text = .ok ratio
  numbers :
    ∃ first second,
      text.toList = first ++ ':' :: second ∧
      ratio.horizontal.IsPrintedExactly first horizontal ∧
      ratio.vertical.IsPrintedExactly second vertical

/-- The filter that cuts a frame, at its sides if it is wide. -/
def cut
    (ratio : AspectRatio)
    (position : CropPosition)
    (isWide : Bool) :
    Filter :=
  if isWide then cropSides ratio position else cropEnds ratio position

end AspectRatio

/-! ## What the expressions compute -/

section Values

variable
  {width height horizontal vertical : ℚ}
  {first second side other : String}

open ExpressionToken

/-- How a side times a ratio is read. -/
def shareRead (side : String) (first second : Decimal) : Expression :=
  .combined .over
    (.combined .times (.quantity side) (.number first))
    (.number second)

/-- A side times a ratio. -/
def shareText (side first second : String) : String :=
  side ++ "*" ++ first ++ "/" ++ second

/-- The tokens of a side times a ratio. -/
def shareTokens
    (side : String)
    (first second : Decimal) :
    List ExpressionToken := [
  .name side, .operator .times, .number first, .operator .over,
  .number second]

theorem readAll_share
    (isSide : side = "iw" ∨ side = "ih")
    (firstDenotes : Denotes first.toList horizontal)
    (secondDenotes : Denotes second.toList vertical)
    {rest : List Char}
    {tokens : List ExpressionToken}
    (delimited : IsDelimited rest)
    (isRead : readAll 0 rest = some tokens) :
    ∃ firstRead secondRead : Decimal,
      firstRead.value = horizontal ∧
      secondRead.value = vertical ∧
      readAll 0 ((shareText side first second).toList ++ rest) =
        some (shareTokens side firstRead secondRead ++ tokens) := by
  obtain ⟨secondRead, secondValue, reads⟩ :=
    secondDenotes.readAll delimited isRead
  obtain ⟨firstRead, firstValue, reads⟩ :=
    firstDenotes.readAll (isDelimited_cons (by decide) _)
      (readAll_mark '/' rfl reads)
  have isWord : isWord side.toList = true := by
    rcases isSide with rfl | rfl <;> decide
  have reads :=
    readAll_name side.toList isWord (isDelimited_cons (by decide) _)
      (readAll_mark '*' rfl reads)
  have isText :
      (shareText side first second).toList ++ rest =
        side.toList ++ '*' ::
          (first.toList ++ '/' :: (second.toList ++ rest)) := by
    simp [shareText]
  rw [String.ofList_toList] at reads
  rw [isText]
  exact ⟨firstRead, secondRead, firstValue, secondValue, reads⟩

variable {quantities : String → Option ℚ} {size otherSize : ℚ}

section Shares

variable
  (isSide : side = "iw" ∨ side = "ih")
  (isSize : quantities side = some size)
  (firstDenotes : Denotes first.toList horizontal)
  (secondDenotes : Denotes second.toList vertical)
  (notZero : vertical ≠ 0)

include isSide isSize firstDenotes secondDenotes notZero

theorem evaluate?_share :
    evaluate? quantities (shareText side first second) =
      some (size * horizontal / vertical) := by
  obtain ⟨firstRead, secondRead, firstValue, secondValue, reads⟩ :=
    readAll_share isSide firstDenotes secondDenotes isDelimited_nil
      (readAll.eq_1 0)
  rw [List.append_nil, List.append_nil] at reads
  rw [evaluate?_of_readAll (shareRead side firstRead secondRead) reads rfl]
  simp [shareRead, Expression.value?, Operation.apply?, isSize, firstValue,
    secondValue, notZero]

variable
  (isOther : other = "iw" ∨ other = "ih")
  (isOtherSize : quantities other = some otherSize)

include isOther isOtherSize

/-- What a share leaves of the other side. -/
theorem evaluate?_remainder :
    evaluate? quantities (other ++ "-" ++ shareText side first second) =
      some (otherSize - size * horizontal / vertical) := by
  obtain ⟨firstRead, secondRead, firstValue, secondValue, reads⟩ :=
    readAll_share isSide firstDenotes secondDenotes isDelimited_nil
      (readAll.eq_1 0)
  rw [List.append_nil, List.append_nil] at reads
  have isWord : isWord other.toList = true := by
    rcases isOther with rfl | rfl <;> decide
  have reads :=
    readAll_name other.toList isWord (isDelimited_cons (by decide) _)
      (readAll_mark '-' rfl reads)
  let expression : Expression :=
    .combined .minus (.quantity other) (shareRead side firstRead secondRead)
  have isText :
      (other ++ "-" ++ shareText side first second).toList =
        other.toList ++ '-' :: (shareText side first second).toList := by
    simp
  rw [← isText, String.ofList_toList] at reads
  rw [evaluate?_of_readAll expression reads rfl]
  simp [expression, shareRead, Expression.value?, Operation.apply?, isSize,
    isOtherSize, firstValue, secondValue, notZero]

/-- Half of what a share leaves of the other side. -/
theorem evaluate?_half :
    evaluate? quantities
        ("(" ++ other ++ "-" ++ shareText side first second ++ ")/2") =
      some ((otherSize - size * horizontal / vertical) / 2) := by
  have tail : readAll 0 [')', '/', '2'] = some
      [.closing, .operator .over, .number ⟨2, 0⟩] := by
    decide +kernel
  obtain ⟨firstRead, secondRead, firstValue, secondValue, reads⟩ :=
    readAll_share isSide firstDenotes secondDenotes
      (isDelimited_cons (by decide) _) tail
  have isWord : isWord other.toList = true := by
    rcases isOther with rfl | rfl <;> decide
  have reads :=
    readAll_mark '(' rfl <|
      readAll_name other.toList isWord (isDelimited_cons (by decide) _)
        (readAll_mark '-' rfl reads)
  let expression : Expression :=
    .combined .over
      (.combined .minus (.quantity other)
        (shareRead side firstRead secondRead))
      (.number ⟨2, 0⟩)
  have isText :
      ("(" ++ other ++ "-" ++ shareText side first second ++ ")/2").toList =
        '(' :: (other.toList ++ '-' ::
          ((shareText side first second).toList ++ [')', '/', '2'])) := by
    simp
  have two : (Decimal.value ⟨2, 0⟩ : ℚ) = 2 := by
    simp [Decimal.value]
  rw [← isText, String.ofList_toList] at reads
  rw [evaluate?_of_readAll expression reads rfl]
  simp [expression, shareRead, Expression.value?, Operation.apply?, isSize,
    isOtherSize, firstValue, secondValue, notZero, two]

end Shares

/-- A side alone is the size of the frame. -/
theorem evaluate?_side
    (isSide : side = "iw" ∨ side = "ih")
    (isSize : quantities side = some size) :
    evaluate? quantities side = some size := by
  have isRead : readExpression? side = some (.quantity side) := by
    rcases isSide with rfl | rfl <;> decide +kernel
  rw [evaluate?, isRead, Option.bind_eq_bind, Option.bind_some,
    Expression.value?, isSize]

theorem evaluate?_zero : evaluate? quantities "0" = some 0 := by
  have isRead : readExpression? "0" = some (.number ⟨0, 0⟩) := by
    decide +kernel
  rw [evaluate?, isRead]
  simp [Expression.value?, Decimal.value]

end Values

/-! ## The kept part -/

namespace AspectRatio

variable
  {ratio : AspectRatio}
  {horizontal vertical width height : ℚ}

/-- What a cut at the sides keeps of a frame. -/
def keptBetweenSides
    (position : CropPosition)
    (horizontal vertical width height : ℚ) :
    CropRectangle where
  width := height * horizontal / vertical
  height := height
  left :=
    match position with
    | .center => (width - height * horizontal / vertical) / 2
    | _ => 0
  top := 0

/-- What a cut at the top and bottom keeps of a frame. -/
def keptBetweenEnds
    (position : CropPosition)
    (horizontal vertical width height : ℚ) :
    CropRectangle where
  width := width
  height := width * vertical / horizontal
  left := 0
  top :=
    match position with
    | .center => (height - width * vertical / horizontal) / 2
    | .bottom => height - width * vertical / horizontal
    | .top => 0

section Printed

variable
  (horizontalPrinted : Denotes ratio.horizontal.sixDigitText horizontal)
  (verticalPrinted : Denotes ratio.vertical.sixDigitText vertical)
  (width height : ℚ)

include horizontalPrinted verticalPrinted

theorem rectangle?_cropSides
    (notZero : vertical ≠ 0)
    (position : CropPosition) :
    (cropSides ratio position).rectangle? width height =
      some (keptBetweenSides position horizontal vertical width height) := by
  have first : Denotes ratio.horizontalText.toList horizontal := by
    rwa [horizontalText, String.toList_ofList]
  have second : Denotes ratio.verticalText.toList vertical := by
    rwa [verticalText, String.toList_ofList]
  have whole :=
    evaluate?_side (.inr rfl) (rfl : frameQuantity? width height "ih" = _)
  have share :=
    evaluate?_share (.inr rfl) (rfl : frameQuantity? width height "ih" = _)
      first second notZero
  have half :=
    evaluate?_half (.inr rfl) (rfl : frameQuantity? width height "ih" = _)
      first second notZero (.inl rfl) rfl
  have arguments :
      (cropSides ratio position).arguments.map OptionValue.told = [
        shareText "ih" ratio.horizontalText ratio.verticalText, "ih",
        (match position with
          | .center =>
              "(" ++ "iw" ++ "-" ++
                shareText "ih" ratio.horizontalText ratio.verticalText ++ ")/2"
          | _ => "0"), "0"] := by
    cases position <;> rfl
  rw [Filter.rectangle?, arguments]
  cases position <;>
    simp only [share, whole, half, evaluate?_zero, Option.bind_eq_bind,
      Option.bind_some, Option.pure_def, keptBetweenSides]

theorem rectangle?_cropEnds
    (notZero : horizontal ≠ 0)
    (position : CropPosition) :
    (cropEnds ratio position).rectangle? width height =
      some (keptBetweenEnds position horizontal vertical width height) := by
  have first : Denotes ratio.verticalText.toList vertical := by
    rwa [verticalText, String.toList_ofList]
  have second : Denotes ratio.horizontalText.toList horizontal := by
    rwa [horizontalText, String.toList_ofList]
  have whole :=
    evaluate?_side (.inl rfl) (rfl : frameQuantity? width height "iw" = _)
  have share :=
    evaluate?_share (.inl rfl) (rfl : frameQuantity? width height "iw" = _)
      first second notZero
  have remainder :=
    evaluate?_remainder (.inl rfl) (rfl : frameQuantity? width height "iw" = _)
      first second notZero (.inr rfl) rfl
  have half :=
    evaluate?_half (.inl rfl) (rfl : frameQuantity? width height "iw" = _)
      first second notZero (.inr rfl) rfl
  have arguments :
      (cropEnds ratio position).arguments.map OptionValue.told = [
        "iw", shareText "iw" ratio.verticalText ratio.horizontalText, "0",
        (match position with
          | .center =>
              "(" ++ "ih" ++ "-" ++
                shareText "iw" ratio.verticalText ratio.horizontalText ++ ")/2"
          | .bottom =>
              "ih" ++ "-" ++
                shareText "iw" ratio.verticalText ratio.horizontalText
          | .top => "0")] := by
    cases position <;> rfl
  rw [Filter.rectangle?, arguments]
  cases position <;>
    simp only [share, whole, remainder, half, evaluate?_zero,
      Option.bind_eq_bind, Option.bind_some, Option.pure_def, keptBetweenEnds]

end Printed

/-! ## The largest part -/

section Largest

variable
  (above : 0 < horizontal)
  (below : 0 < vertical)
  (high : 0 < height)
  (position : CropPosition)

include above below high

/-- The sides of a frame are cut if it is not narrower than the ratio. -/
theorem keptBetweenSides_isLargest
    (isWide : horizontal / vertical ≤ width / height) :
    (keptBetweenSides position horizontal vertical width height).IsLargest
      width height (horizontal / vertical) := by
  have narrower : height * horizontal / vertical ≤ width := by
    rw [div_le_div_iff₀ below high] at isWide
    rw [div_le_iff₀ below]
    linarith
  have positive : 0 < height * horizontal / vertical := by positivity
  refine ⟨⟨positive, high, ?_, le_rfl, ?_, ?_⟩, ?_, .inr rfl, ?_⟩
  · cases position <;> simp only [keptBetweenSides] <;> linarith
  · cases position <;> simp only [keptBetweenSides] <;> linarith
  · simp [keptBetweenSides]
  · simp only [keptBetweenSides]
    field_simp
  · intro other fits shape
    have lower : other.height ≤ height := by linarith [fits.top, fits.bottom]
    have isWidth : other.width = other.height * horizontal / vertical := by
      rw [div_eq_div_iff fits.high.ne' below.ne'] at shape
      rw [eq_div_iff below.ne', shape]
      ring
    refine ⟨?_, lower⟩
    rw [isWidth]
    simp only [keptBetweenSides]
    gcongr

/-- The top and bottom of a frame are cut if it is not wider than the ratio. -/
theorem keptBetweenEnds_isLargest
    (wide : 0 < width)
    (isHigh : width / height ≤ horizontal / vertical) :
    (keptBetweenEnds position horizontal vertical width height).IsLargest
      width height (horizontal / vertical) := by
  have lower : width * vertical / horizontal ≤ height := by
    rw [div_le_div_iff₀ high below] at isHigh
    rw [div_le_iff₀ above]
    linarith
  have positive : 0 < width * vertical / horizontal := by positivity
  refine ⟨⟨wide, positive, le_rfl, ?_, ?_, ?_⟩, ?_, .inl rfl, ?_⟩
  · cases position <;> simp only [keptBetweenEnds] <;> linarith
  · simp [keptBetweenEnds]
  · cases position <;> simp only [keptBetweenEnds] <;> linarith
  · simp only [keptBetweenEnds]
    field_simp
  · intro other fits shape
    have narrower : other.width ≤ width := by linarith [fits.left, fits.right]
    have isHeight : other.height = other.width * vertical / horizontal := by
      rw [div_eq_div_iff fits.high.ne' below.ne'] at shape
      rw [eq_div_iff above.ne', shape]
      ring
    refine ⟨narrower, ?_⟩
    rw [isHeight]
    simp only [keptBetweenEnds]
    gcongr

end Largest

theorem keptBetweenSides_isPlaced (position : CropPosition) :
    (keptBetweenSides position horizontal vertical width height).IsPlaced
      width height position := by
  cases position <;> simp [CropRectangle.IsPlaced, keptBetweenSides]

theorem keptBetweenEnds_isPlaced (position : CropPosition) :
    (keptBetweenEnds position horizontal vertical width height).IsPlaced
      width height position := by
  cases position <;> simp [CropRectangle.IsPlaced, keptBetweenEnds]

end AspectRatio

/-! ## Ratios of whole numbers -/

/-- A whole number above zero with at most six digits is read, and printed
exactly. -/
theorem Binary64.isPrintedExactly_natural
    {number : Nat}
    (positive : 0 < number)
    (short : number < 1000000) :
    ∃ read,
      ofNumeral (floatOfText (String.ofList (decimalDigits number))) =
        .ok read ∧
      read.IsPrintedExactly (decimalDigits number) number := by
  obtain ⟨representable, isRead⟩ :=
    ofDecimal_natural (short.trans (by decide : 1000000 < powerOfTwo 53))
  refine ⟨finite false (number * unitsPerOne) representable, ?_, ?_, ?_⟩
  · rw [floatOfText_decimalDigits, isRead]
    rfl
  · rw [← sixDigitDecimal_natural positive short]
    exact denotes_sixDigitText representable
  · left
    rw [map_asciiDigit_decimalDigits]
    exact denotes_natural number

/-- A ratio of whole numbers with at most six digits is printed exactly. -/
theorem AspectRatio.isPrintedExactly_naturals
    {horizontal vertical : Nat}
    (above : 0 < horizontal ∧ horizontal < 1000000)
    (below : 0 < vertical ∧ vertical < 1000000) :
    ∃ ratio : AspectRatio,
      ratio.IsPrintedExactly
        (showNatural horizontal ++ ":" ++ showNatural vertical)
        horizontal vertical := by
  obtain ⟨first, firstRead, firstPrinted⟩ :=
    Binary64.isPrintedExactly_natural above.1 above.2
  obtain ⟨second, secondRead, secondPrinted⟩ :=
    Binary64.isPrintedExactly_natural below.1 below.2
  have isText :
      (showNatural horizontal ++ ":" ++ showNatural vertical).toList =
        decimalDigits horizontal ++ ':' :: decimalDigits vertical := by
    simp [showNatural]
  have free (number : Nat) : ':' ∉ decimalDigits number := fun member =>
    absurd (areDigits_decimalDigits number ':' member) (by decide)
  refine ⟨⟨first, second⟩, ?_, _, _, isText, firstPrinted, secondPrinted⟩
  rw [read, isText, splitAtChar_append_cons (free horizontal),
    splitAtChar_of_not_mem (free vertical)]
  dsimp only
  rw [firstRead, secondRead]
  rfl

/-! ## The comparison -/

namespace Binary64

/-- Only a finite number is printed with digits. -/
theorem isFinite_of_denotes
    {number : Binary64}
    {value : ℚ}
    (printed : Denotes number.sixDigitText value) :
    number.isFinite = true := by
  obtain ⟨decimal, taken, -⟩ := printed [] isDelimited_nil
  cases number with
  | nan =>
      have none : takeDecimal? (nanText ++ []) = none := by decide
      rw [sixDigitText, none] at taken
      cases taken
  | infinite negative =>
      have none : takeDecimal? (infinityText negative ++ []) = none := by
        cases negative <;> decide
      rw [sixDigitText, none] at taken
      cases taken
  | finite negative units representable => rfl

/-- A number that was read and is printed exactly approximates its value. -/
theorem IsPrintedExactly.approximates
    {number : Binary64}
    {written : List Char}
    {value : ℚ}
    (printed : number.IsPrintedExactly written value)
    (accepted : CropEffect.isDecimal written = true)
    (isRead : floatOfText (String.ofList written) = .ok number) :
    number.Approximates value := by
  rcases printed.meant with denotes | isExact
  · obtain ⟨decimal, taken, isValue⟩ := denotes [] isDelimited_nil
    rw [List.append_nil] at taken
    have reads := readDecimal?_of_takeDecimal? taken false
    rw [floatOfText, String.toList_ofList,
      CropEffect.readFloat?_plainNumeral accepted, reads] at isRead
    have isNumber := Except.ok.inj isRead
    have isFinite := isFinite_of_denotes printed.printed
    rw [← isNumber] at isFinite ⊢
    have near := ofDecimal_approximates false _ _ isFinite
    rwa [sign, if_neg Bool.false_ne_true, one_mul, isValue] at near
  · rw [← isExact]
    exact approximates_exact number

end Binary64

namespace AspectRatio

variable
  {ratio : AspectRatio}
  {horizontal vertical : ℚ}
  {width height : Nat}

/-- A ratio that is printed exactly approximates its numbers. -/
theorem IsPrintedExactly.approximates
    {text : String}
    (printed : ratio.IsPrintedExactly text horizontal vertical)
    (accepted : CropEffect.isAspectRatio text.toList = true) :
    (ratio.horizontal.isFinite = true ∧
        ratio.horizontal.Approximates horizontal) ∧
      ratio.vertical.isFinite = true ∧
        ratio.vertical.Approximates vertical := by
  obtain ⟨first, second, whole, firstPrinted, secondPrinted⟩ := printed.numbers
  obtain ⟨before, after, parts, pieces, free, firstDecimal, secondDecimal⟩ :=
    exists_decimals accepted
  rw [whole] at parts
  obtain ⟨rfl, -, rfl⟩ :=
    (List.append_cons_inj_of_notMem free.1 free.2).mp parts.symm
  have isRead := printed.isRead
  rw [read, pieces] at isRead
  obtain ⟨_, firstRead, isRead⟩ := Outcome.exists_of_bind isRead
  obtain ⟨_, secondRead, isRead⟩ := Outcome.exists_of_bind isRead
  rw [← Except.ok.inj isRead] at firstPrinted secondPrinted ⊢
  exact
    ⟨⟨Binary64.isFinite_of_denotes firstPrinted.printed,
        firstPrinted.approximates firstDecimal
          (Outcome.mapError_eq_ok.mp firstRead)⟩,
      Binary64.isFinite_of_denotes secondPrinted.printed,
      secondPrinted.approximates secondDecimal
        (Outcome.mapError_eq_ok.mp secondRead)⟩

/-- A ratio and a frame are compared exactly: no wider frame is taken for a
narrower one, nor a narrower one for a wider. Which of both a frame of the very
ratio is taken for does not matter. -/
def IsComparedExactly
    (ratio : AspectRatio)
    (horizontal vertical : ℚ)
    (width height : Nat) :
    Prop :=
  ∃ isWide,
    ratio.isExceeded (.integer width) (.integer height) = .ok isWide ∧
    (isWide = true → horizontal / vertical ≤ width / height) ∧
    (isWide = false → width / height ≤ horizontal / vertical)

/-- A ratio and a frame of usual sizes, which have the same shape, or shapes that
differ at least by a share of two to the minus forty-eighth. -/
structure IsClear
    (horizontal vertical : ℚ)
    (width height : Nat) :
    Prop where
  horizontalBounds : 1 / 1000000 ≤ horizontal ∧ horizontal ≤ 1000000
  verticalBounds : 1 / 1000000 ≤ vertical ∧ vertical ≤ 1000000
  widthBounds : 1 ≤ width ∧ width ≤ 1000000000
  heightBounds : 1 ≤ height ∧ height ≤ 1000000000
  apart :
    horizontal / vertical ≠ width / height →
      (width / height : ℚ) ≤
        |horizontal / vertical - width / height| * 2 ^ 48

/-- A fraction cannot come near to another one with small denominators. -/
theorem le_of_fraction
    {numerator denominator : Nat}
    (positive : 0 < denominator)
    (isFraction : horizontal / vertical = numerator / denominator)
    (small : denominator * width ≤ 2 ^ 48)
    (high : 1 ≤ height)
    (differ : horizontal / vertical ≠ width / height) :
    (width / height : ℚ) ≤
      |horizontal / vertical - width / height| * 2 ^ 48 := by
  have below : (0 : ℚ) < denominator := by exact_mod_cast positive
  have someHeight : (0 : ℚ) < height := by exact_mod_cast high
  have product : (0 : ℚ) < denominator * height := mul_pos below someHeight
  rw [isFraction, ne_eq, div_eq_div_iff below.ne' someHeight.ne'] at differ
  have isDistance :
      (numerator / denominator - width / height : ℚ) =
        (numerator * height - width * denominator) /
          (denominator * height) := by
    rw [div_sub_div _ _ below.ne' someHeight.ne', mul_comm (width : ℚ)]
  have step : (1 : ℚ) ≤ |(numerator * height - width * denominator : ℚ)| := by
    have someStep : ((numerator * height - width * denominator : Int)) ≠ 0 := by
      rw [sub_ne_zero]
      exact_mod_cast differ
    exact_mod_cast Int.one_le_abs someStep
  rw [isFraction, isDistance, abs_div, abs_of_pos product, div_mul_eq_mul_div,
    div_le_div_iff₀ someHeight product]
  have bound : (denominator * width : ℚ) ≤ 2 ^ 48 := by exact_mod_cast small
  calc (width * (denominator * height) : ℚ)
      = denominator * width * height := by ring
    _ ≤ 2 ^ 48 * height := mul_le_mul_of_nonneg_right bound someHeight.le
    _ = 1 * 2 ^ 48 * height := by ring
    _ ≤ |(numerator * height - width * denominator : ℚ)| * 2 ^ 48 *
          height := by
        gcongr

section Clear

variable
  (clear : IsClear horizontal vertical width height)

include clear

/-- Rounded quotients are in the order of exact ones that differ clearly: the
errors of both are smaller than what lies between. -/
theorem IsClear.ordered
    {wanted frame : ℚ}
    (wantedNear :
      |wanted - horizontal / vertical| ≤ horizontal / vertical / 2 ^ 50)
    (frameNear : |frame - width / height| ≤ (width / height : ℚ) / 2 ^ 52) :
    (wanted < frame → horizontal / vertical ≤ width / height) ∧
      (frame ≤ wanted → (width / height : ℚ) ≤ horizontal / vertical) := by
  have apart := clear.apart
  generalize horizontal / vertical = ratio at *
  generalize (width / height : ℚ) = shape at *
  rw [abs_le] at wantedNear frameNear
  constructor
  · intro isLess
    by_contra! reversed
    have far := apart reversed.ne'
    rw [abs_of_pos (sub_pos.mpr reversed)] at far
    linarith
  · intro notLess
    by_contra! reversed
    have far := apart reversed.ne
    rw [abs_of_neg (sub_neg.mpr reversed)] at far
    linarith

/-- The rounded quotient of the numbers of a ratio. -/
theorem IsClear.wanted_near
    (first :
      ratio.horizontal.isFinite = true ∧
        ratio.horizontal.Approximates horizontal)
    (second :
      ratio.vertical.isFinite = true ∧ ratio.vertical.Approximates vertical) :
    ∃ wanted,
      ratio.horizontal.divide ratio.vertical = .ok wanted ∧
        wanted.isFinite = true ∧
        |wanted.exact - horizontal / vertical| ≤
          horizontal / vertical / 2 ^ 50 := by
  obtain ⟨firstLow, firstHigh⟩ := clear.horizontalBounds
  obtain ⟨secondLow, secondHigh⟩ := clear.verticalBounds
  have firstNear := first.2.near (le_trans (by norm_num) firstLow)
  have secondNear := second.2.near (le_trans (by norm_num) secondLow)
  obtain ⟨firstBelow, firstAbove⟩ := abs_le.mp firstNear
  obtain ⟨secondBelow, secondAbove⟩ := abs_le.mp secondNear
  have bounded : |ratio.horizontal.exact| ≤ ((2000000 : Nat) : ℚ) := by
    rw [abs_of_pos (by linarith)]
    push_cast
    linarith
  have isLarge : 1 ≤ ((2000000 : Nat) : ℚ) * ratio.vertical.exact := by
    push_cast
    linarith
  obtain ⟨wanted, isWanted, isFinite, approximates⟩ :=
    Binary64.exists_quotient first.1 second.1 bounded isLarge
      (lt_powerOfTwo_of_short (by decide) (by decide))
  have large : 1 / 2 ^ 47 ≤ ratio.horizontal.exact / ratio.vertical.exact := by
    rw [le_div_iff₀ (by linarith)]
    linarith
  have rounded := approximates.near large
  have quotients :=
    quotient_near (by linarith) (by linarith) firstNear secondNear
  have positive : 0 < horizontal / vertical :=
    div_pos (by linarith) (by linarith)
  refine ⟨wanted, isWanted, isFinite, ?_⟩
  rw [abs_le] at quotients rounded ⊢
  constructor <;> linarith

/-- The rounded quotient of the sides of a frame. -/
theorem IsClear.frame_near :
    ∃ frame,
      (Json.integer width).dividedBy (.integer height) = .ok frame ∧
        frame.isFinite = true ∧
        |frame.exact - width / height| ≤ (width / height : ℚ) / 2 ^ 52 := by
  obtain ⟨wideLow, wideHigh⟩ := clear.widthBounds
  obtain ⟨highLow, highHigh⟩ := clear.heightBounds
  have small : 1000000000 < powerOfTwo 1023 :=
    lt_powerOfTwo_of_short (by decide) (by decide)
  obtain ⟨frame, isFrame⟩ :=
    Binary64.divideIntegers_eq_ok (by omega : (height : Int) ≠ 0)
      (by omega : (width : Int).natAbs < powerOfTwo 1023)
  obtain ⟨isFinite, near⟩ := Binary64.divideIntegers_approximates isFrame
  refine ⟨frame, Json.dividedBy_integers isFrame, isFinite, near.near ?_⟩
  have someWidth : (1 : ℚ) ≤ width := by exact_mod_cast wideLow
  have someHeight : (1 : ℚ) ≤ height := by exact_mod_cast highLow
  have boundedHeight : (height : ℚ) ≤ 1000000000 := by exact_mod_cast highHigh
  rw [le_div_iff₀ (by linarith)]
  linarith

/-- Clearly different shapes are compared exactly. -/
theorem isComparedExactly_of_isClear
    {text : String}
    (printed : ratio.IsPrintedExactly text horizontal vertical)
    (accepted : CropEffect.isAspectRatio text.toList = true) :
    ratio.IsComparedExactly horizontal vertical width height := by
  obtain ⟨first, second⟩ := printed.approximates accepted
  obtain ⟨wanted, isWanted, wantedFinite, wantedNear⟩ :=
    clear.wanted_near first second
  obtain ⟨frame, isFrame, frameFinite, frameNear⟩ := clear.frame_near
  obtain ⟨exceeds, stays⟩ := clear.ordered wantedNear frameNear
  have isLess := Binary64.less_iff_exact wantedFinite frameFinite
  refine ⟨wanted.less frame, ?_, ?_, ?_⟩
  · rw [isExceeded, isFrame, isWanted]
    rfl
  · exact fun isWide => exceeds (isLess.mp isWide)
  · intro isHigh
    refine stays (not_lt.mp fun below => ?_)
    rw [isLess.mpr below] at isHigh
    cases isHigh

end Clear

end AspectRatio

/-! ## The stage -/

/-- A frame is cut as its ratio was compared. -/
theorem cropStages_of_isExceeded
    {sent : Json}
    {effect : CropEffect}
    (isRead : CropEffect.read sent = .valid effect)
    {text : String}
    (isRatio : effect.aspectRatio = some text)
    {ratio : AspectRatio}
    (isText : AspectRatio.read text = .ok ratio)
    {width height : Json}
    {isWide : Bool}
    (compared : ratio.isExceeded width height = .ok isWide) :
    cropStages effect width height =
      .ok (ratio.cut effect.position isWide ::
        resizeFilters effect.width effect.height) := by
  have accepted := CropEffect.isAspectRatio_of_read isRead isRatio
  have nonempty : text.isEmpty = false := by
    by_contra isEmpty
    rw [Bool.not_eq_false, String.isEmpty_iff] at isEmpty
    rw [isEmpty] at accepted
    cases accepted
  rw [cropStages, cropToRatio, isRatio]
  simp only [nonempty, Bool.false_eq_true, ↓reduceIte, isText]
  change ((ratio.isExceeded width height >>= _) >>= _) = _
  rw [compared]
  rfl

/-- What is cut off of a frame as the shapes are ordered leaves the largest
part. -/
theorem AspectRatio.IsPrintedExactly.kept_of_cut
    {ratio : AspectRatio}
    {text : String}
    {horizontal vertical width height : ℚ}
    (printed : ratio.IsPrintedExactly text horizontal vertical)
    (above : 0 < horizontal)
    (below : 0 < vertical)
    (wide : 0 < width)
    (high : 0 < height)
    (position : CropPosition)
    {isWide : Bool}
    (exceeds : isWide = true → horizontal / vertical ≤ width / height)
    (stays : isWide = false → width / height ≤ horizontal / vertical) :
    ∃ rectangle,
      (ratio.cut position isWide).rectangle? width height = some rectangle ∧
      rectangle.IsLargest width height (horizontal / vertical) ∧
      rectangle.IsPlaced width height position := by
  obtain ⟨first, second, -, first, second⟩ := printed.numbers
  cases isWide with
  | true =>
      exact ⟨_,
        rectangle?_cropSides first.printed second.printed _ _ below.ne'
          position,
        keptBetweenSides_isLargest above below high _ (exceeds rfl),
        keptBetweenSides_isPlaced _⟩
  | false =>
      exact ⟨_,
        rectangle?_cropEnds first.printed second.printed _ _ above.ne'
          position,
        keptBetweenEnds_isLargest above below high _ wide (stays rfl),
        keptBetweenEnds_isPlaced _⟩

/--
A frame that is cut to an aspect ratio keeps its largest part with the ratio, if
both numbers of the ratio are printed exactly and the ratios are compared
exactly: the part lies inside of the frame, has exactly the ratio, and reaches
from side to side or from top to bottom. It stands in the middle, or at the left
side and at the edge that is told. The stages begin with the filter that keeps
it whenever the comparison comes out like the exact one. It does so for numbers
and frames of usual sizes, unless both shapes differ by less than a share of two
to the minus forty-eighth.
-/
theorem kept_part_is_largest
    {sent : Json}
    {effect : CropEffect}
    (isRead : CropEffect.read sent = .valid effect)
    {text : String}
    (isRatio : effect.aspectRatio = some text)
    {ratio : AspectRatio}
    {horizontal vertical : ℚ}
    (printed : ratio.IsPrintedExactly text horizontal vertical)
    (above : 0 < horizontal)
    (below : 0 < vertical)
    {width height : Nat}
    (wide : 1 ≤ width)
    (high : 1 ≤ height) :
    (∀ isWide,
      ratio.isExceeded (.integer width) (.integer height) = .ok isWide →
      cropStages effect (.integer width) (.integer height) =
        .ok (ratio.cut effect.position isWide ::
          resizeFilters effect.width effect.height)) ∧
    (∃ rectangle,
      (ratio.cut effect.position
        (horizontal / vertical < (width / height : ℚ))).rectangle? width
          height = some rectangle ∧
      rectangle.IsLargest width height (horizontal / vertical) ∧
      rectangle.IsPlaced width height effect.position) ∧
    (ratio.IsComparedExactly horizontal vertical width height →
      ∃ filter rectangle,
        cropStages effect (.integer width) (.integer height) =
          .ok (filter :: resizeFilters effect.width effect.height) ∧
        filter.rectangle? width height = some rectangle ∧
        rectangle.IsLargest width height (horizontal / vertical) ∧
        rectangle.IsPlaced width height effect.position) ∧
    (AspectRatio.IsClear horizontal vertical width height →
      ratio.IsComparedExactly horizontal vertical width height) := by
  have someWidth : (0 : ℚ) < width := by exact_mod_cast wide
  have someHeight : (0 : ℚ) < height := by exact_mod_cast high
  have accepted := CropEffect.isAspectRatio_of_read isRead isRatio
  have stages
      {isWide : Bool}
      (compared :
        ratio.isExceeded (.integer width) (.integer height) = .ok isWide) :
      cropStages effect (.integer width) (.integer height) =
        .ok (ratio.cut effect.position isWide ::
          resizeFilters effect.width effect.height) :=
    cropStages_of_isExceeded isRead isRatio printed.isRead compared
  have kept := printed.kept_of_cut above below someWidth someHeight
  refine ⟨fun isWide => stages, ?_, ?_, fun clear =>
    AspectRatio.isComparedExactly_of_isClear clear printed accepted⟩
  · refine kept effect.position ?_ ?_
    · exact fun isWide => (of_decide_eq_true isWide).le
    · exact fun isHigh => not_lt.mp (of_decide_eq_false isHigh)
  · rintro ⟨isWide, compared, exceeds, stays⟩
    obtain ⟨rectangle, isKept⟩ := kept effect.position exceeds stays
    exact ⟨_, rectangle, stages compared, isKept⟩

/-- An upright part of a frame that lies. -/
theorem upright_part_is_largest :
    ∃ (effect : CropEffect) (filter : Filter) (rectangle : CropRectangle),
      CropEffect.read (.object [("aspect_ratio", .text "9:16")]) =
        .valid effect ∧
      cropStages effect (.integer (1920 : Nat)) (.integer (1080 : Nat)) =
        .ok [filter] ∧
      filter.rectangle? (1920 : Nat) (1080 : Nat) = some rectangle ∧
      rectangle.IsLargest (1920 : Nat) (1080 : Nat)
        ((9 : Nat) / (16 : Nat)) ∧
      rectangle.IsPlaced (1920 : Nat) (1080 : Nat) .center := by
  obtain ⟨ratio, printed⟩ :=
    @AspectRatio.isPrintedExactly_naturals 9 16 (by decide) (by decide)
  have isText : showNatural 9 ++ ":" ++ showNatural 16 = "9:16" := by
    decide +kernel
  rw [isText] at printed
  obtain ⟨effect, isRead, isRatio, isCenter, noResize⟩ :
      ∃ effect : CropEffect,
        CropEffect.read (.object [("aspect_ratio", .text "9:16")]) =
          .valid effect ∧
        effect.aspectRatio = some "9:16" ∧
        effect.position = .center ∧
        resizeFilters effect.width effect.height = [] :=
    ⟨_, rfl, rfl, rfl, rfl⟩
  have clear :
      AspectRatio.IsClear (9 : Nat) (16 : Nat) 1920 1080 :=
    { horizontalBounds := by norm_num
      verticalBounds := by norm_num
      widthBounds := by decide
      heightBounds := by decide
      apart :=
        AspectRatio.le_of_fraction (by decide) rfl (by decide) (by decide) }
  obtain ⟨-, -, keeps, compares⟩ :=
    @kept_part_is_largest _ _ isRead _ isRatio _ _ _ printed (by norm_num)
      (by norm_num) 1920 1080 (by decide) (by decide)
  obtain ⟨filter, rectangle, isStages, isRectangle, isLargest, isPlaced⟩ :=
    keeps (compares clear)
  rw [noResize] at isStages
  rw [isCenter] at isPlaced
  exact ⟨effect, filter, rectangle, isRead, isStages, isRectangle, isLargest,
    isPlaced⟩

end Montage
