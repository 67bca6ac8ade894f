import Mathlib.Algebra.Order.Field.Basic
import Mathlib.Algebra.Order.Ring.Rat
import Mathlib.Tactic.FieldSimp
import Mathlib.Tactic.Linarith
import Mathlib.Tactic.NormNum
import Mathlib.Tactic.Positivity
import Mathlib.Tactic.Ring
import Montage.Proofs.Effect.Ranges
import Montage.Proofs.Expression.Spelled
import Montage.Proofs.Render.Flat
import Montage.Stage.Zoom

namespace Montage

/-!
# Movements of a zoom

What the constants of a movement denote after they were printed, and what the
expressions compute that are written with them: the zoom of a frame from the
latest one, the way of a pan, and the place that keeps the centre.
-/

/-! ## The constants of a movement -/

/-- The nearest decimal of six digits to a number from one up to ten is rounded
to five places. -/
theorem sixDigitDecimal_of_units
    {units : Nat}
    (atLeast : unitsPerOne ≤ units)
    (below : units < 10 * unitsPerOne) :
    sixDigitDecimal units =
      ⟨roundHalfEven (units * powerOfTen 5) unitsPerOne, -5⟩ := by
  have one := unitsPerOne_pos
  have oneDigit : units / unitsPerOne < 10 := by
    rwa [Nat.div_lt_iff_lt_mul one]
  have exponent : leadingExponent units - 5 = .negSucc 4 := by
    unfold leadingExponent
    rw [if_pos atLeast, decimalDigits, if_pos oneDigit]
    rfl
  have scaled :
      scaledUnits units (.negSucc 4) = (units * powerOfTen 5, unitsPerOne) := by
    simp only [scaledUnits]
  rw [sixDigitDecimal, exponent, scaled, Int.negSucc_eq]
  norm_num

/-- From one to one and a half, rounding to six digits does not lead out. -/
theorem sixDigitDecimal_between
    (Number : Type) [Field Number] [LinearOrder Number]
    [IsStrictOrderedRing Number]
    {units : Nat}
    (atLeast : unitsPerOne ≤ units)
    (atMost : units ≤ unitsPerOne + unitsPerOne / 2) :
    (1 : Number) ≤ (sixDigitDecimal units).value ∧
      ((sixDigitDecimal units).value : Number) ≤ 3 / 2 := by
  have one := unitsPerOne_pos
  have lower :
      roundHalfEven (unitsPerOne * powerOfTen 5) unitsPerOne = 100000 := by
    decide +kernel
  have upper :
      roundHalfEven ((unitsPerOne + unitsPerOne / 2) * powerOfTen 5)
        unitsPerOne = 150000 := by
    decide +kernel
  have above :=
    roundHalfEven_mono (Nat.mul_le_mul_right (powerOfTen 5) atLeast) unitsPerOne
  have below :=
    roundHalfEven_mono (Nat.mul_le_mul_right (powerOfTen 5) atMost) unitsPerOne
  rw [lower] at above
  rw [upper] at below
  rw [sixDigitDecimal_of_units atLeast (by omega), Decimal.value]
  generalize roundHalfEven (units * powerOfTen 5) unitsPerOne = mantissa at *
  have aboveCast : (100000 : Number) ≤ mantissa := by exact_mod_cast above
  have belowCast : (mantissa : Number) ≤ 150000 := by exact_mod_cast below
  have scale : (10 : Number) ^ (-5 : Int) = 1 / 100000 := by norm_num
  rw [scale]
  constructor <;> linarith

/-- An accepted intensity has no minus sign and is at most a half. -/
theorem ZoomEffect.units_of_read
    {sent : Json}
    {effect : ZoomEffect}
    (isRead : read sent = .valid effect) :
    ∃ units representable,
      effect.intensity = .finite false units representable ∧
      units ≤ unitsPerOne / 2 := by
  have holds := holds_of_read isRead
  have isFinite : effect.intensity.isFinite = true :=
    (holds.within_one (by decide +kernel) (by decide +kernel)).isFinite
  have half :
      (0.5 : Binary64).position = some ((unitsPerOne / 2 : Nat) : Int) := by
    decide +kernel
  have least : Binary64.less 0 (0.05 : Binary64) = true := by decide +kernel
  obtain ⟨low, place, isLow, isPlace, above⟩ := Binary64.atMost_iff.mp holds.low
  obtain ⟨other, high, isOther, isHigh, below⟩ :=
    Binary64.atMost_iff.mp holds.high
  obtain rfl : place = other := Option.some.inj (isPlace.symm.trans isOther)
  have isFirst : (0.05 : Binary64).position = some low := isLow
  have zero : (0 : Binary64).position = some 0 := rfl
  have lowAbove : 0 < low := by
    simpa [Binary64.less, isFirst, zero] using least
  have highIs : ((unitsPerOne / 2 : Nat) : Int) = high :=
    Option.some.inj (half.symm.trans isHigh)
  obtain ⟨units, rfl⟩ := Int.eq_ofNat_of_zero_le (by omega : 0 ≤ place)
  obtain ⟨representable, isUnits⟩ :=
    Binary64.eq_finite_of_position isFinite isPlace (by omega)
  exact ⟨units, representable, isUnits, by omega⟩

/-- A whole number above zero is read as one that is at least one. -/
theorem Binary64.units_of_ofInteger
    {number : Nat}
    (positive : 0 < number)
    (bound : number < powerOfTwo 1023) :
    ∃ units representable,
      ofInteger number = .ok (.finite false units representable) ∧
      unitsPerOne ≤ units := by
  obtain ⟨result, isResult, isFinite⟩ :=
    @ofInteger_eq_ok number (by simpa using bound)
  have notNegative : decide ((number : Int) < 0) = false := by simp
  have isNearest :
      unlessInfinite .integerTooLarge
          (ofUnits false (number * unitsPerOne) 1) = .ok result := by
    rw [← isResult, ofInteger, notNegative, Int.natAbs_natCast]
  unfold ofUnits at isNearest
  split at isNearest
  · have one : roundSignificant (1 * unitsPerOne) 1 = 1 * unitsPerOne :=
      roundSignificant_of_whole (by decide)
    have atLeast :=
      roundSignificant_mono (Nat.mul_le_mul_right unitsPerOne positive) 1
    rw [Nat.succ_eq_add_one, Nat.zero_add, one, Nat.one_mul] at atLeast
    exact ⟨_, _, isResult.trans isNearest.symm, atLeast⟩
  · cases isNearest

section Intensity

variable
  {units : Nat}
  (representable : Representable units)
  (small : units ≤ unitsPerOne / 2)

include small

/-- The greatest zoom of a small intensity is from one to one and a half. -/
theorem Binary64.one_add_of_small :
    ∃ sum sumHolds,
      1 + finite false units representable = finite false sum sumHolds ∧
      unitsPerOne ≤ sum ∧
      sum ≤ unitsPerOne + unitsPerOne / 2 := by
  have least : roundSignificant unitsPerOne 1 = unitsPerOne := by
    decide +kernel
  have most :
      roundSignificant (unitsPerOne + unitsPerOne / 2) 1 =
        unitsPerOne + unitsPerOne / 2 := by
    decide +kernel
  have above := roundSignificant_mono (Nat.le_add_right unitsPerOne units) 1
  have below := roundSignificant_mono (Nat.add_le_add_left small unitsPerOne) 1
  rw [least] at above
  rw [most] at below
  have inRange : roundSignificant (unitsPerOne + units) 1 < unitsLimit := by
    have limit : 2 * unitsPerOne < unitsLimit := by decide +kernel
    omega
  obtain ⟨oneHolds, isOne⟩ :=
    @eq_finite_of_position 1 unitsPerOne (by decide +kernel)
      (by decide +kernel) unitsPerOne_pos
  refine ⟨_, representable_roundSignificant inRange, ?_, above, below⟩
  have positive := unitsPerOne_pos
  have notZero :
      signedUnits false unitsPerOne + signedUnits false units ≠ 0 := by
    simp only [signedUnits, Bool.false_eq_true, ↓reduceIte]
    omega
  have notNegative :
      decide (signedUnits false unitsPerOne + signedUnits false units < 0) =
        false := by
    simp only [signedUnits, Bool.false_eq_true, ↓reduceIte,
      decide_eq_false_iff_not]
    omega
  have magnitude :
      (signedUnits false unitsPerOne + signedUnits false units).natAbs =
        unitsPerOne + units := by
    simp only [signedUnits, Bool.false_eq_true, ↓reduceIte]
    omega
  rw [isOne]
  change Binary64.add _ _ = _
  rw [Binary64.add, if_neg notZero, notNegative, magnitude, ofUnits, dif_pos inRange]

/-- A small intensity can be divided by a number that is at least one. -/
theorem Binary64.divide_of_small
    {count : Nat}
    (countHolds : Representable count)
    (large : unitsPerOne ≤ count) :
    ∃ step stepHolds,
      (finite false units representable).divide
          (finite false count countHolds) =
        .ok (finite false step stepHolds) := by
  have positive := unitsPerOne_pos
  have notZero : count ≠ 0 := by omega
  have inRange : 2 * (units * unitsPerOne / count) + 1 < unitsLimit := by
    have less : units * unitsPerOne / count ≤ units := by
      apply Nat.div_le_of_le_mul
      rw [Nat.mul_comm count]
      exact Nat.mul_le_mul_left units large
    have limit : 2 * unitsPerOne + 1 < unitsLimit := by decide +kernel
    omega
  obtain ⟨step, stepHolds, isStep⟩ :=
    isUnsigned_ofUnits (isFinite_ofUnits false inRange)
  refine ⟨step, stepHolds, ?_⟩
  rw [← isStep]
  simp [divide, isZero, notZero]

end Intensity

/-- A number with a fixed count of places denotes a value that is not
negative. -/
theorem exists_denotes_fixedText
    (Number : Type) [Field Number] [LinearOrder Number]
    [IsStrictOrderedRing Number]
    (places : Nat)
    {units : Nat}
    (representable : Representable units) :
    ∃ value : Number,
      0 ≤ value ∧
      Denotes ((Binary64.finite false units representable).fixedText places)
        value := by
  refine ⟨_, ?_, denotes_fixedText places representable⟩
  exact mul_nonneg (Nat.cast_nonneg _) (zpow_nonneg (by norm_num) _)

/-- What was computed is used. -/
theorem ofArithmetic_ok_bind
    {α β : Type}
    (value : α)
    (next : α → Outcome β) :
    (ofArithmetic (.ok value) >>= next) = next value :=
  rfl

/-- What the texts of a movement denote. -/
structure ZoomPlan.Tells
    {Number : Type} [Field Number] [LinearOrder Number]
    (plan : ZoomPlan)
    (greatest step : Number)
    (frames : Nat) :
    Prop where
  greatestZoomText : Denotes plan.greatestZoom.toList greatest
  oneLe : 1 ≤ greatest
  leHalf : greatest ≤ 3 / 2
  stepText : Denotes plan.step.toList step
  forward : 0 ≤ step
  isCount : plan.frames = frames
  filled : 0 < frames

/-- A movement of an accepted effect over a clip that was measured has a
greatest zoom from one to one and a half, a step that is not negative, and at
least one frame. -/
theorem ZoomPlan.ofEffect_tells
    (Number : Type) [Field Number] [LinearOrder Number]
    [IsStrictOrderedRing Number]
    {sent : Json}
    {effect : ZoomEffect}
    (isRead : ZoomEffect.read sent = .valid effect)
    {duration frameRate : Binary64}
    (isDuration : IsMeasure duration)
    (isRate : IsMeasure frameRate) :
    ∃ plan frames,
      ∃ greatest step : Number,
        ZoomPlan.ofEffect effect duration frameRate = .ok plan ∧
        plan.kind = effect.kind ∧
        plan.greatestZoom =
          String.ofList (1 + effect.intensity).sixDigitText ∧
        plan.Tells greatest step frames := by
  obtain ⟨units, representable, isIntensity, small⟩ :=
    ZoomEffect.units_of_read isRead
  have product :=
    isDuration.within.multiply isRate.within
      (lt_powerOfTwo_of_short (by decide) (by decide))
  obtain ⟨rounded, isRounded, bounded⟩ := product.round
  obtain ⟨frames, isFrames⟩ :=
    Int.eq_ofNat_of_zero_le (by omega : 0 ≤ max 1 rounded)
  have far : 2000000000000000010 < powerOfTwo 1023 :=
    lt_powerOfTwo_of_short (by decide) (by decide)
  obtain ⟨count, countHolds, isCount, large⟩ :=
    @Binary64.units_of_ofInteger frames (by omega) (by omega)
  obtain ⟨step, stepHolds, isStep⟩ :=
    Binary64.divide_of_small representable small countHolds large
  obtain ⟨sum, sumHolds, isSum, above, below⟩ :=
    Binary64.one_add_of_small representable small
  obtain ⟨oneLe, leHalf⟩ :=
    sixDigitDecimal_between Number above below
  have isPlan :
      ZoomPlan.ofEffect effect duration frameRate =
        .ok {
          kind := effect.kind
          greatestZoom := String.ofList (1 + effect.intensity).sixDigitText
          step := String.ofList ((Binary64.finite false step stepHolds).fixedText 6)
          frames := max 1 rounded } := by
    rw [ZoomPlan.ofEffect, isRounded, ofArithmetic_ok_bind]
    dsimp only
    rw [isFrames, isCount, ofArithmetic_ok_bind, isIntensity, isStep,
      ofArithmetic_ok_bind]
    rfl
  obtain ⟨share, forward, stepText⟩ :=
    exists_denotes_fixedText Number 6 stepHolds
  refine ⟨_, frames, (sixDigitDecimal sum).value, share, isPlan, rfl, rfl, {
    greatestZoomText := ?_
    oneLe := oneLe
    leHalf := leHalf
    stepText := ?_
    forward := forward
    isCount := isFrames
    filled := by omega }⟩
  · rw [isIntensity, isSum, String.toList_ofList]
    exact denotes_sixDigitText sumHolds
  · rwa [String.toList_ofList]

/-! ## What the expressions compute -/

section Values

variable
  {Number : Type} [Field Number] [LinearOrder Number]
  {quantities : String → Option Number}
  {greatestText stepText framesText : String}
  {greatest step zoom frames frame width : Number}

open ExpressionToken

/-- A zoom in adds the step, up to the greatest zoom. -/
theorem evaluate?_zoomIn
    (stepDenotes : Denotes stepText.toList step)
    (greatestDenotes : Denotes greatestText.toList greatest)
    (isZoom : quantities "zoom" = some zoom) :
    evaluate? quantities
        ("min(zoom+" ++ stepText ++ "," ++ greatestText ++ ")") =
      some (min (zoom + step) greatest) := by
  obtain ⟨last, lastValue, reads⟩ :=
    greatestDenotes.readAll (isDelimited_cons (by decide) _)
      (readAll_mark ')' rfl (readAll.eq_1 0))
  obtain ⟨first, firstValue, reads⟩ :=
    stepDenotes.readAll (isDelimited_cons (by decide) _)
      (readAll_mark ',' rfl reads)
  have reads :=
    readAll_call "min".toList (by decide) <|
      readAll_name "zoom".toList (by decide)
        (isDelimited_cons (by decide) _) (readAll_mark '+' rfl reads)
  let expression : Expression :=
    .combined .least (.combined .plus (.quantity "zoom") (.number first))
      (.number last)
  have isText :
      ("min(zoom+" ++ stepText ++ "," ++ greatestText ++ ")").toList =
        "min".toList ++ '(' :: ("zoom".toList ++ '+' ::
          (stepText.toList ++ ',' :: (greatestText.toList ++ [')']))) := by
    simp
  rw [← isText] at reads
  rw [evaluate?_of_readAll expression reads rfl]
  simp [expression, Expression.value?, isZoom, firstValue, lastValue,
    Operation.apply?]

/-- A zoom out begins anew at the greatest zoom in the second frame, and takes
the step away in the others, down to one. -/
theorem evaluate?_zoomOut
    (stepDenotes : Denotes stepText.toList step)
    (greatestDenotes : Denotes greatestText.toList greatest)
    (isZoom : quantities "zoom" = some zoom)
    (isFrame : quantities "on" = some frame) :
    evaluate? quantities
        ("if(eq(on,1)," ++ greatestText ++ ",max(zoom-" ++ stepText ++
          ",1))") =
      some (if frame = 1 then greatest else max (zoom - step) 1) := by
  have oneDenotes : Denotes ['1'] (1 : Number) := denotes_one
  obtain ⟨least, leastValue, reads⟩ :=
    oneDenotes.readAll (isDelimited_cons (by decide) _) <|
      readAll_mark ')' rfl <|
        readAll_mark ')' rfl (readAll.eq_1 0)
  obtain ⟨taken, takenValue, reads⟩ :=
    stepDenotes.readAll (isDelimited_cons (by decide) _)
      (readAll_mark ',' rfl reads)
  obtain ⟨begun, begunValue, reads⟩ :=
    greatestDenotes.readAll (isDelimited_cons (by decide) _) <|
      readAll_mark ',' rfl <|
        readAll_call "max".toList (by decide) <|
          readAll_name "zoom".toList (by decide)
            (isDelimited_cons (by decide) _)
            (readAll_mark '-' rfl reads)
  obtain ⟨second, secondValue, reads⟩ :=
    oneDenotes.readAll (isDelimited_cons (by decide) _) <|
      readAll_mark ')' rfl (readAll_mark ',' rfl reads)
  have reads :=
    readAll_call "if".toList (by decide) <|
      readAll_call "eq".toList (by decide) <|
        readAll_name "on".toList (by decide)
          (isDelimited_cons (by decide) _) (readAll_mark ',' rfl reads)
  let expression : Expression :=
    .choice (.combined .equal (.quantity "on") (.number second))
      (.number begun)
      (.combined .greatest
        (.combined .minus (.quantity "zoom") (.number taken))
        (.number least))
  have isText :
      ("if(eq(on,1)," ++ greatestText ++ ",max(zoom-" ++ stepText ++
          ",1))").toList =
        "if".toList ++ '(' :: ("eq".toList ++ '(' :: ("on".toList ++ ',' ::
          (['1'] ++ ')' :: ',' :: (greatestText.toList ++ ',' ::
            ("max".toList ++ '(' :: ("zoom".toList ++ '-' ::
              (stepText.toList ++ ',' :: (['1'] ++ [')', ')'])))))))) := by
    simp
  rw [← isText] at reads
  rw [evaluate?_of_readAll expression reads rfl]
  by_cases isSecond : frame = 1 <;>
    simp [expression, Expression.value?, isZoom, isFrame, leastValue, takenValue,
      begunValue, secondValue, Operation.apply?, isSecond]

/-- How the way of a pan up to a frame is read. -/
def wayRead (first last : Decimal) : Expression :=
  .combined .over
    (.combined .times
      (.combined .over
        (.combined .over (.quantity "iw") (.number first))
        (.quantity "zoom"))
      (.quantity "on"))
    (.number last)

/-- The tokens of the way of a pan. -/
def wayTokens (first last : Decimal) : List ExpressionToken := [
  .name "iw", .operator .over, .number first, .operator .over, .name "zoom",
  .operator .times, .name "on", .operator .over, .number last]

omit [LinearOrder Number] in
theorem readAll_way
    (greatestDenotes : Denotes greatestText.toList greatest)
    (framesDenotes : Denotes framesText.toList frames) :
    ∃ first last : Decimal,
      first.value = greatest ∧
      last.value = frames ∧
      readAll 0 ("iw/" ++ greatestText ++ "/zoom*on/" ++ framesText).toList =
        some (wayTokens first last) := by
  obtain ⟨last, lastValue, reads⟩ :=
    framesDenotes.readAll isDelimited_nil (readAll.eq_1 0)
  obtain ⟨first, firstValue, reads⟩ :=
    greatestDenotes.readAll (isDelimited_cons (by decide) _) <|
      readAll_mark '/' rfl <|
        readAll_name "zoom".toList (by decide)
          (isDelimited_cons (by decide) _) <|
          readAll_mark '*' rfl <|
            readAll_name "on".toList (by decide)
              (isDelimited_cons (by decide) _)
              (readAll_mark '/' rfl reads)
  have reads :=
    readAll_name "iw".toList (by decide)
      (isDelimited_cons (by decide) _) (readAll_mark '/' rfl reads)
  have isText :
      ("iw/" ++ greatestText ++ "/zoom*on/" ++ framesText).toList =
        "iw".toList ++ '/' :: (greatestText.toList ++ '/' ::
          ("zoom".toList ++ '*' :: ("on".toList ++ '/' ::
            (framesText.toList ++ [])))) := by
    simp
  rw [← isText] at reads
  exact ⟨first, last, firstValue, lastValue, reads⟩

/-- What is known while a pan is at a frame. -/
structure IsPanning
    (quantities : String → Option Number)
    (width zoom frame greatest frames : Number) :
    Prop where
  isWidth : quantities "iw" = some width
  isZoom : quantities "zoom" = some zoom
  isFrame : quantities "on" = some frame
  greatest : greatest ≠ 0
  zoom : zoom ≠ 0
  frames : frames ≠ 0

/-- A pan to the right moves on with the frames. -/
theorem evaluate?_panRight
    (panning : IsPanning quantities width zoom frame greatest frames)
    (greatestDenotes : Denotes greatestText.toList greatest)
    (framesDenotes : Denotes framesText.toList frames) :
    evaluate? quantities ("iw/" ++ greatestText ++ "/zoom*on/" ++ framesText) =
      some (width / greatest / zoom * frame / frames) := by
  obtain ⟨first, last, firstValue, lastValue, reads⟩ :=
    readAll_way greatestDenotes framesDenotes
  rw [evaluate?_of_readAll (wayRead first last) reads rfl]
  simp [wayRead, Expression.value?, Operation.apply?, firstValue, lastValue,
    panning.isWidth, panning.isZoom, panning.isFrame, panning.greatest,
    panning.zoom, panning.frames]

/-- A pan to the left begins at the width divided by the greatest zoom, and
goes the same way back. -/
theorem evaluate?_panLeft
    (panning : IsPanning quantities width zoom frame greatest frames)
    (greatestDenotes : Denotes greatestText.toList greatest)
    (framesDenotes : Denotes framesText.toList frames) :
    evaluate? quantities
        ("iw/" ++ greatestText ++ "-" ++
          ("iw/" ++ greatestText ++ "/zoom*on/" ++ framesText)) =
      some (width / greatest - width / greatest / zoom * frame / frames) := by
  obtain ⟨first, last, firstValue, lastValue, reads⟩ :=
    readAll_way greatestDenotes framesDenotes
  obtain ⟨begun, begunValue, reads⟩ :=
    greatestDenotes.readAll (isDelimited_cons (by decide) _)
      (readAll_mark '-' rfl reads)
  have reads :=
    readAll_name "iw".toList (by decide)
      (isDelimited_cons (by decide) _) (readAll_mark '/' rfl reads)
  let expression : Expression :=
    .combined .minus
      (.combined .over (.quantity "iw") (.number begun))
      (wayRead first last)
  have isText :
      ("iw/" ++ greatestText ++ "-" ++
          ("iw/" ++ greatestText ++ "/zoom*on/" ++ framesText)).toList =
        "iw".toList ++ '/' :: (greatestText.toList ++ '-' ::
          ("iw/" ++ greatestText ++ "/zoom*on/" ++ framesText).toList) := by
    simp
  rw [← isText] at reads
  rw [evaluate?_of_readAll expression reads rfl]
  simp [expression, wayRead, Expression.value?, Operation.apply?, firstValue,
    lastValue, begunValue, panning.isWidth, panning.isZoom, panning.isFrame,
    panning.greatest, panning.zoom, panning.frames]

/-- What keeps the centre has half of what is not seen on each side. -/
theorem evaluate?_centered
    (side : String)
    (isSide : side = "iw" ∨ side = "ih")
    (isWidth : quantities side = some width)
    (isZoom : quantities "zoom" = some zoom)
    (notZero : zoom ≠ 0)
    (two : (2 : Number) ≠ 0) :
    evaluate? quantities (side ++ "/2-(" ++ side ++ "/zoom/2)") =
      some (width / 2 - width / zoom / 2) := by
  have isRead :
      readExpression? (side ++ "/2-(" ++ side ++ "/zoom/2)") = some
        (.combined .minus
          (.combined .over (.quantity side) (.number ⟨2, 0⟩))
          (.combined .over
            (.combined .over (.quantity side) (.quantity "zoom"))
            (.number ⟨2, 0⟩))) := by
    rcases isSide with rfl | rfl <;> decide +kernel
  have twoValue : (Decimal.value ⟨2, 0⟩ : Number) = 2 := by
    simp [Decimal.value]
  rw [evaluate?, isRead]
  simp [Expression.value?, Operation.apply?, isWidth, isZoom, twoValue, notZero,
    two]

end Values

end Montage
