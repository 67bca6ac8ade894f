import Mathlib.Algebra.Order.Field.Basic
import Mathlib.Algebra.Order.Ring.Rat
import Mathlib.Tactic.FieldSimp
import Mathlib.Tactic.Linarith
import Mathlib.Tactic.NormNum
import Mathlib.Tactic.Ring
import Montage.Proofs.Expression.Reading
import Montage.Proofs.Graph.Options
import Montage.Stage.Text

namespace Montage

/-!
# Texts that slide up

A text that slides up starts below the frame and shall reach its place within a
second. Its height is an expression of time. Only the text in the middle moves
like that: elsewhere the distance lacks parentheses, so that the text moves on
downwards and then jumps to the lower edge, also if its place is at the top.
-/

/-! ## Heights at times -/

/-- The sizes of a frame and of the text that is drawn on it. -/
structure DrawingFrame (Number : Type) where
  width : Number
  height : Number
  textWidth : Number
  textHeight : Number

section Values

variable {Number : Type} [Field Number] [LinearOrder Number]

/-- What the drawing filter knows while it evaluates an expression. -/
def DrawingFrame.quantity?
    (frame : DrawingFrame Number)
    (time : Number) :
    String → Option Number
  | "w" => some frame.width
  | "h" => some frame.height
  | "text_w" => some frame.textWidth
  | "text_h" => some frame.textHeight
  | "t" => some time
  | _ => none

/-- A text that has a height and is lower than the frame. -/
structure DrawingFrame.Fits (frame : DrawingFrame Number) : Prop where
  positive : 0 < frame.textHeight
  lower : frame.textHeight < frame.height

/-- The value of an option of a filter at a time. -/
def Filter.valueUnder?
    (filter : Filter)
    (key : String)
    (frame : DrawingFrame Number)
    (time : Number) :
    Option Number := do
  let text ← filter.toldUnder? key
  let expression ← readExpression? text
  expression.value? (frame.quantity? time)

/-- A motion from the lower edge straight to a place, which it reaches after
one second. -/
structure DrawingFrame.SlidesInto
    (frame : DrawingFrame Number)
    (place : Number)
    (motion : Number → Number) :
    Prop where
  start : motion 0 = frame.height
  between :
    ∀ time,
      0 ≤ time →
      time < 1 →
      motion time = frame.height + (place - frame.height) * time
  rest : ∀ time, 1 ≤ time → motion time = place

/-- A motion from the lower edge downwards for one second, and then a jump to
the place that a text has at the lower edge. -/
structure DrawingFrame.SlidesAway
    (frame : DrawingFrame Number)
    (motion : Number → Number) :
    Prop where
  start : motion 0 = frame.height
  between :
    ∀ time,
      0 ≤ time →
      time < 1 →
      motion time = frame.height + (frame.textHeight + 30) * time
  rest : ∀ time, 1 ≤ time → motion time = frame.height - frame.textHeight - 30

end Values

/-! ## The expressions -/

namespace Expression

/-- What a text leaves free of the height. -/
def free : Expression :=
  .combined .minus (.quantity "h") (.quantity "text_h")

/-- A part of a distance upwards from the lower edge during the first second,
and then a place. -/
def sliding (distance place : Expression) : Expression :=
  .choice
    (.combined .less (.quantity "t") (.number ⟨1, 0⟩))
    (.combined .minus (.quantity "h")
      (.combined .times distance (.quantity "t")))
    place

end Expression

namespace TextPosition

/-- Where a text stands, as it is read. -/
def placeRead : TextPosition → Expression
  | .center => .combined .over .free (.number ⟨2, 0⟩)
  | .topCenter | .topLeft | .topRight => .number ⟨30, 0⟩
  | _ => .combined .minus .free (.number ⟨30, 0⟩)

/-- Where a text stands that slid up, as it is read. -/
def restRead : TextPosition → Expression
  | .center => .combined .over .free (.number ⟨2, 0⟩)
  | _ => .combined .minus .free (.number ⟨30, 0⟩)

/-- How far a text slides, as it is read. The place in the middle has
parentheses that keep it together behind the minus sign; the other place has
none, and its own minus signs go on from there. -/
def distanceRead : TextPosition → Expression
  | .center =>
      .combined .minus (.quantity "h")
        (.combined .over .free (.number ⟨2, 0⟩))
  | _ =>
      .combined .minus
        (.combined .minus
          (.combined .minus (.quantity "h") (.quantity "h"))
          (.quantity "text_h"))
        (.number ⟨30, 0⟩)

theorem read_coordinates (position : TextPosition) :
    readExpression? position.coordinates.2 = some position.placeRead := by
  cases position <;> decide +kernel

end TextPosition

namespace TextOverlay

variable (overlay : TextOverlay) (fontFile textFile : String)

/-- An overlay without its animation. -/
def still : TextOverlay :=
  { overlay with animation := .none }

theorem read_slidingPlace (slides : overlay.animation = .slideUp) :
    readExpression? overlay.verticalPlace.told =
      some (.sliding overlay.position.distanceRead
        overlay.position.restRead) := by
  unfold verticalPlace restingPlace
  rw [slides]
  cases overlay.position <;> decide +kernel

theorem toldUnder_vertical :
    (overlay.drawingFilter fontFile textFile).toldUnder? "y" =
      some overlay.verticalPlace.told := by
  unfold Filter.toldUnder? Filter.told drawingFilter letterOptions
  split <;> rfl

end TextOverlay

/-! ## The motions -/

section Motions

variable
  {Number : Type} [Field Number] [LinearOrder Number]
  [IsStrictOrderedRing Number]

namespace DrawingFrame

variable (frame : DrawingFrame Number)

/-- A height that changes with time for one second, and then a place. -/
def slide (distance place time : Number) : Number :=
  if time < 1 then frame.height - distance * time else place

theorem value_sliding
    {distance place : Expression}
    {far rest time : Number}
    (distanceValue : distance.value? (frame.quantity? time) = some far)
    (placeValue : place.value? (frame.quantity? time) = some rest) :
    (Expression.sliding distance place).value? (frame.quantity? time) =
      some (frame.slide far rest time) := by
  have timeValue : frame.quantity? time "t" = some time := rfl
  have heightValue : frame.quantity? time "h" = some frame.height := rfl
  have one : (Decimal.value ⟨1, 0⟩ : Number) = 1 := by simp [Decimal.value]
  simp only [Expression.sliding, Expression.value?, timeValue, heightValue,
    distanceValue, placeValue, one, Operation.apply?, Option.bind_eq_bind,
    Option.bind_some, slide]
  by_cases early : time < 1
  · simp only [early, ↓reduceIte, one_ne_zero]
  · simp only [early, ↓reduceIte]

/-- A distance from the lower edge to a place leads into it. -/
theorem slide_slidesInto (place : Number) :
    frame.SlidesInto place (frame.slide (frame.height - place) place) where
  start := by simp [slide]
  between := by
    intro time _ early
    rw [slide, if_pos early]
    ring
  rest := fun time late => if_neg late.not_gt

theorem slide_slidesAway :
    frame.SlidesAway
      (frame.slide (frame.height - frame.height - frame.textHeight - 30)
        (frame.height - frame.textHeight - 30)) where
  start := by simp [slide]
  between := by
    intro time _ early
    rw [slide, if_pos early]
    ring
  rest := fun time late => if_neg late.not_gt

/-- Who slides away does not slide into a place: in the middle of the time, the
two motions are on different sides. -/
theorem SlidesAway.not_slidesInto
    {frame : DrawingFrame Number}
    {place : Number}
    {motion : Number → Number}
    (away : frame.SlidesAway motion)
    (above : place < frame.height + frame.textHeight + 30) :
    ¬ frame.SlidesInto place motion := by
  intro into
  have positive : (0 : Number) ≤ 1 / 2 := by norm_num
  have early : (1 / 2 : Number) < 1 := by norm_num
  have downwards := away.between (1 / 2) positive early
  have straight := into.between (1 / 2) positive early
  linarith

end DrawingFrame

namespace TextPosition

variable (frame : DrawingFrame Number) (position : TextPosition)

/-- The height at which a text stands. -/
def place : TextPosition → Number
  | .center => (frame.height - frame.textHeight) / 2
  | .topCenter | .topLeft | .topRight => 30
  | _ => frame.height - frame.textHeight - 30

/-- The height of a text that slides up. -/
def slide : TextPosition → Number → Number
  | .center =>
      frame.slide (frame.height - (frame.height - frame.textHeight) / 2)
        ((frame.height - frame.textHeight) / 2)
  | _ =>
      frame.slide (frame.height - frame.height - frame.textHeight - 30)
        (frame.height - frame.textHeight - 30)

theorem value_placeRead (time : Number) :
    position.placeRead.value? (frame.quantity? time) =
      some (position.place frame) := by
  cases position <;>
    simp [placeRead, place, Expression.free, Expression.value?,
      Operation.apply?, DrawingFrame.quantity?, Decimal.value]

theorem value_slidingRead (time : Number) :
    (Expression.sliding position.distanceRead position.restRead).value?
        (frame.quantity? time) =
      some (position.slide frame time) := by
  cases position
  all_goals
    apply frame.value_sliding
    all_goals
      simp [distanceRead, restRead, Expression.free, Expression.value?,
        Operation.apply?, DrawingFrame.quantity?, Decimal.value]

variable {frame position}

theorem place_lt (fits : frame.Fits) :
    position.place frame < frame.height + frame.textHeight + 30 := by
  have positive := fits.positive
  have lower := fits.lower
  cases position <;> simp only [place] <;> linarith

omit [IsStrictOrderedRing Number] in
/-- Every place but the middle lacks the parentheses. -/
theorem slide_of_ne_center (elsewhere : position ≠ .center) :
    position.slide frame =
      frame.slide (frame.height - frame.height - frame.textHeight - 30)
        (frame.height - frame.textHeight - 30) := by
  cases position <;> first | rfl | exact absurd rfl elsewhere

end TextPosition

/--
The height of a text that slides up has a value at every time and in every
frame. The text slides from the lower edge straight into the place that it has
without animation exactly if this place is the middle; everywhere else it moves
downwards, out of sight, and after one second it jumps to the place at the
lower edge, even if its own place is at the top.
-/
theorem text_slides_into_place_iff
    (overlay : TextOverlay)
    (fontFile textFile : String)
    (slides : overlay.animation = .slideUp)
    (frame : DrawingFrame Number)
    (fits : frame.Fits) :
    (∀ time,
      (overlay.still.drawingFilter fontFile textFile).valueUnder? "y" frame
        time = some (overlay.position.place frame)) ∧
    ∃ motion : Number → Number,
      (∀ time,
        (overlay.drawingFilter fontFile textFile).valueUnder? "y" frame time =
          some (motion time)) ∧
      (frame.SlidesInto (overlay.position.place frame) motion ↔
        overlay.position = .center) ∧
      (overlay.position ≠ .center → frame.SlidesAway motion) := by
  refine ⟨fun time => ?_, overlay.position.slide frame, fun time => ?_, ?_, ?_⟩
  · have told :
        (overlay.still.drawingFilter fontFile textFile).toldUnder? "y" =
          some overlay.position.coordinates.2 :=
      overlay.still.toldUnder_vertical fontFile textFile
    simp only [Filter.valueUnder?, told, Option.bind_eq_bind,
      Option.bind_some, TextPosition.read_coordinates,
      TextPosition.value_placeRead]
  · simp only [Filter.valueUnder?, overlay.toldUnder_vertical,
      Option.bind_eq_bind, Option.bind_some, overlay.read_slidingPlace slides,
      TextPosition.value_slidingRead]
  · constructor
    · intro into
      by_contra elsewhere
      rw [TextPosition.slide_of_ne_center elsewhere] at into
      exact frame.slide_slidesAway.not_slidesInto (TextPosition.place_lt fits)
        into
    · intro central
      rw [central]
      exact frame.slide_slidesInto _
  · intro elsewhere
    rw [TextPosition.slide_of_ne_center elsewhere]
    exact frame.slide_slidesAway

end Motions

/-- A text at the lower edge that shall slide up. -/
def slidingCaption : TextOverlay where
  text := "a"
  animation := .slideUp

/-- An upright frame with a text on it. -/
def uprightFrame : DrawingFrame ℚ where
  width := 1080
  height := 1920
  textWidth := 300
  textHeight := 40

/-- After half a second, the text stands 35 points below the frame and not 35
points above its edge. -/
theorem sliding_caption_stays_out_of_sight :
    TextOverlay.read
        (.object [("text", .text "a"), ("animation", .text "slide_up")]) =
      .valid slidingCaption ∧
    slidingCaption.animation = .slideUp ∧
    uprightFrame.Fits ∧
    (slidingCaption.still.drawingFilter "a.ttf" "a.txt").valueUnder? "y"
      uprightFrame 1 = some 1850 ∧
    (slidingCaption.drawingFilter "a.ttf" "a.txt").valueUnder? "y"
      uprightFrame (1 / 2) = some 1955 ∧
    1955 ≠ 1920 + ((1850 : ℚ) - 1920) * (1 / 2) := by
  have fits : uprightFrame.Fits := ⟨by norm_num [uprightFrame],
    by norm_num [uprightFrame]⟩
  have slides : slidingCaption.animation = .slideUp := rfl
  obtain ⟨rests, motion, moves, -, away⟩ :=
    text_slides_into_place_iff slidingCaption "a.ttf" "a.txt" slides
      uprightFrame fits
  have place : slidingCaption.position.place uprightFrame = 1850 := by
    norm_num [slidingCaption, TextPosition.place, uprightFrame]
  have half : motion (1 / 2) = 1955 := by
    rw [(away (by decide)).between (1 / 2) (by norm_num) (by norm_num)]
    norm_num [uprightFrame]
  refine ⟨by rfl, slides, fits, ?_, ?_, by norm_num⟩
  · rw [rests, place]
  · rw [moves, half]

end Montage
