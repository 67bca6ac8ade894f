import Mathlib.Algebra.Order.Field.Basic
import Mathlib.Algebra.Order.Ring.Rat
import Mathlib.Tactic.FieldSimp
import Mathlib.Tactic.Linarith
import Mathlib.Tactic.NormNum
import Mathlib.Tactic.Positivity
import Mathlib.Tactic.Ring
import Montage.Proofs.Graph.Options
import Montage.Proofs.Stage.Movement

namespace Montage

/-!
# Views of a zoom

A zoom shows a part of the picture in every frame. The part has the size of the
picture divided by the zoom, so it should start at a place from which it does
not leave the picture. A zoom in or out keeps the centre and stays inside. A
pan starts at a part of the whole width where it should start at a part of the
width that is not seen, and leaves the picture.
-/

/-! ## Views -/

/-- The sizes of a picture. -/
structure ZoomedPicture (Number : Type) [Field Number] [LinearOrder Number] where
  width : Number
  height : Number
  wide : 0 < width
  high : 0 < height

/-- The part of a picture that a frame shows: how much larger it is shown, and
where it starts. -/
structure ZoomView (Number : Type) where
  zoom : Number
  left : Number
  top : Number

section Views

variable {Number : Type} [Field Number] [LinearOrder Number]

/-- What the zoom filter knows while it evaluates an expression: the sizes of
the picture, the latest zoom and the number of the frame. -/
def ZoomedPicture.quantity?
    (picture : ZoomedPicture Number)
    (zoom : Number)
    (frame : Nat) :
    String → Option Number
  | "iw" => some picture.width
  | "ih" => some picture.height
  | "zoom" => some zoom
  | "on" => some frame
  | _ => none

namespace Filter

variable (filter : Filter) (picture : ZoomedPicture Number)

/-- The value of an option at a frame. -/
def atFrame?
    (key : String)
    (zoom : Number)
    (frame : Nat) :
    Option Number := do
  let text ← filter.toldUnder? key
  evaluate? (picture.quantity? zoom frame) text

/-- The zoom after some frames: it is one before the first, and each frame
computes the next from the latest. -/
def zoomAfter? : Nat → Option Number
  | 0 => some 1
  | frames + 1 => do
      let latest ← zoomAfter? frames
      filter.atFrame? picture "z" latest frames

/-- What a frame shows. -/
def view? (frame : Nat) : Option (ZoomView Number) := do
  let zoom ← filter.zoomAfter? picture (frame + 1)
  let left ← filter.atFrame? picture "x" zoom frame
  let top ← filter.atFrame? picture "y" zoom frame
  pure { zoom, left, top }

end Filter

/-- A view that starts inside of the picture and does not leave it at its lower
edge, with a zoom between one and the greatest. -/
structure ZoomView.IsBounded
    (view : ZoomView Number)
    (picture : ZoomedPicture Number)
    (greatest : Number) :
    Prop where
  one_le : 1 ≤ view.zoom
  le_greatest : view.zoom ≤ greatest
  left : 0 ≤ view.left
  top : 0 ≤ view.top
  bottom : view.top ≤ picture.height - picture.height / view.zoom

/-- A view that does not leave the picture at its right edge. -/
def ZoomView.EndsInside
    (view : ZoomView Number)
    (picture : ZoomedPicture Number) :
    Prop :=
  view.left ≤ picture.width - picture.width / view.zoom

/-- When a movement does not leave the picture at its right edge: a pan to the
left near its end, and a pan to the right near its start. -/
def ZoomKind.KeepsInside
    (kind : ZoomKind)
    (greatest : Number)
    (frames frame : Nat) :
    Prop :=
  match kind with
  | zoomIn => True
  | zoomOut => True
  | panLeft => greatest * (1 - (greatest - 1)) * frames ≤ frame
  | panRight => (frame : Number) ≤ greatest * (greatest - 1) * frames

end Views

/-! ## The zoom of a frame -/

section Movements

variable
  {Number : Type} [Field Number] [LinearOrder Number]
  [IsStrictOrderedRing Number]

namespace ZoomPlan

/-- The stage of a movement. -/
def stage (plan : ZoomPlan) (size rate : String) : Filter where
  name := "zoompan"
  options := [
    ("z", .expression plan.zoomExpression),
    ("x", .expression plan.leftExpression),
    ("y", .expression centeredY),
    ("d", .integer plan.frames),
    ("s", .text size),
    ("fps", .text rate)]

variable
  {plan : ZoomPlan}
  {greatest step : Number}
  {frames : Nat}
  (size rate : String)
  (picture : ZoomedPicture Number)

/-- The zoom that follows another one. -/
def nextZoom
    (kind : ZoomKind)
    (greatest step latest : Number)
    (frame : Nat) :
    Number :=
  match kind with
  | .zoomIn => min (latest + step) greatest
  | .zoomOut => if (frame : Number) = 1 then greatest else max (latest - step) 1
  | .panLeft => greatest
  | .panRight => greatest

omit [IsStrictOrderedRing Number] in
theorem atFrame?_zoom
    (tells : plan.Tells greatest step frames)
    (latest : Number)
    (frame : Nat) :
    (plan.stage size rate).atFrame? picture "z" latest frame =
      some (nextZoom plan.kind greatest step latest frame) := by
  have told :
      (plan.stage size rate).toldUnder? "z" = some plan.zoomExpression :=
    rfl
  rw [Filter.atFrame?, told, Option.bind_eq_bind, Option.bind_some,
    zoomExpression]
  have constant :
      evaluate? (picture.quantity? latest frame) plan.greatestZoom =
        some greatest :=
    tells.greatestZoomText.evaluate? _
  cases plan.kind with
  | zoomIn =>
      exact evaluate?_zoomIn tells.stepText tells.greatestZoomText rfl
  | zoomOut =>
      exact evaluate?_zoomOut tells.stepText tells.greatestZoomText rfl rfl
  | panLeft => exact constant
  | panRight => exact constant

/-- The next zoom is between one and the greatest if the latest is. -/
theorem nextZoom_between
    (kind : ZoomKind)
    (oneLe : 1 ≤ greatest)
    (forward : 0 ≤ step)
    {latest : Number}
    (above : 1 ≤ latest)
    (below : latest ≤ greatest)
    (frame : Nat) :
    1 ≤ nextZoom kind greatest step latest frame ∧
      nextZoom kind greatest step latest frame ≤ greatest := by
  cases kind with
  | zoomIn =>
      exact ⟨le_min (by linarith) oneLe, min_le_right _ _⟩
  | zoomOut =>
      unfold nextZoom
      dsimp only
      split
      · exact ⟨oneLe, le_rfl⟩
      · exact ⟨le_max_right _ _, max_le (by linarith) oneLe⟩
  | panLeft => exact ⟨oneLe, le_rfl⟩
  | panRight => exact ⟨oneLe, le_rfl⟩

/-- After every number of frames the zoom is between one and the greatest. -/
theorem zoomAfter?_between
    (tells : plan.Tells greatest step frames)
    (passed : Nat) :
    ∃ zoom,
      (plan.stage size rate).zoomAfter? picture passed = some zoom ∧
      1 ≤ zoom ∧
      zoom ≤ greatest := by
  induction passed with
  | zero => exact ⟨1, rfl, le_rfl, tells.oneLe⟩
  | succ passed inductionHypothesis =>
      obtain ⟨latest, isLatest, above, below⟩ := inductionHypothesis
      refine ⟨_, ?_, nextZoom_between plan.kind tells.oneLe tells.forward above
        below passed⟩
      rw [Filter.zoomAfter?, isLatest, Option.bind_eq_bind, Option.bind_some,
        atFrame?_zoom size rate picture tells]

/-! ## The place of a view -/

/-- Where a movement starts its view, told the place from which the middle of
the picture is shown. -/
def leftOf
    (kind : ZoomKind)
    (middle width greatest zoom frames frame : Number) :
    Number :=
  match kind with
  | .zoomIn => middle
  | .zoomOut => middle
  | .panLeft =>
      width / greatest - width / greatest / zoom * frame / frames
  | .panRight => width / greatest / zoom * frame / frames

theorem atFrame?_left
    (tells : plan.Tells greatest step frames)
    {zoom : Number}
    (oneLe : 1 ≤ zoom)
    (frame : Nat) :
    (plan.stage size rate).atFrame? picture "x" zoom frame =
      some
        (leftOf plan.kind (picture.width / 2 - picture.width / zoom / 2)
          picture.width greatest zoom frames frame) := by
  have zoomPositive : zoom ≠ 0 := (zero_lt_one.trans_le oneLe).ne'
  have told :
      (plan.stage size rate).toldUnder? "x" = some plan.leftExpression :=
    rfl
  have framesDenotes :
      Denotes (showInteger plan.frames).toList (frames : Number) := by
    rw [tells.isCount, showInteger, String.toList_ofList]
    exact denotes_natural frames
  have panning :
      IsPanning (picture.quantity? zoom frame) picture.width zoom frame
        greatest frames :=
    { isWidth := rfl
      isZoom := rfl
      isFrame := rfl
      greatest := (zero_lt_one.trans_le tells.oneLe).ne'
      zoom := zoomPositive
      frames := Nat.cast_ne_zero.mpr tells.filled.ne' }
  have centered :
      evaluate? (picture.quantity? zoom frame) centeredX =
        some (picture.width / 2 - picture.width / zoom / 2) :=
    evaluate?_centered "iw" (.inl rfl) rfl rfl zoomPositive two_ne_zero
  rw [Filter.atFrame?, told, Option.bind_eq_bind, Option.bind_some,
    leftExpression]
  cases plan.kind with
  | zoomIn => exact centered
  | zoomOut => exact centered
  | panLeft =>
      exact evaluate?_panLeft panning tells.greatestZoomText framesDenotes
  | panRight =>
      exact evaluate?_panRight panning tells.greatestZoomText framesDenotes

/-- What is not seen of a side is not negative. -/
theorem hidden_nonneg
    {side zoom : Number}
    (positive : 0 < side)
    (oneLe : 1 ≤ zoom) :
    0 ≤ side - side / zoom := by
  have shown : side / zoom ≤ side := div_le_self positive.le oneLe
  linarith

section Pans

variable {width frame count : Number}

/-- The way of a pan, told by the width. -/
theorem way_mul
    (oneLe : 1 ≤ greatest)
    (filled : 0 < count) :
    width / greatest / greatest * frame / count *
        (greatest * greatest * count) =
      width * frame := by
  have positive : greatest ≠ 0 := (zero_lt_one.trans_le oneLe).ne'
  have notZero : count ≠ 0 := filled.ne'
  field_simp

/-- What is not seen of the width, told by the width. -/
theorem hidden_mul
    (oneLe : 1 ≤ greatest) :
    (width - width / greatest) * (greatest * greatest * count) =
      width * (greatest * (greatest - 1) * count) := by
  have positive : greatest ≠ 0 := (zero_lt_one.trans_le oneLe).ne'
  field_simp

/-- A pan to the right is inside as long as its frame is within a share of all
frames. -/
theorem panRight_le_iff
    (wide : 0 < width)
    (oneLe : 1 ≤ greatest)
    (filled : 0 < count) :
    width / greatest / greatest * frame / count ≤ width - width / greatest ↔
      frame ≤ greatest * (greatest - 1) * count := by
  have positive : 0 < greatest := zero_lt_one.trans_le oneLe
  have scale : 0 < greatest * greatest * count := by positivity
  rw [← mul_le_mul_iff_of_pos_right scale, way_mul oneLe filled,
    hidden_mul oneLe, mul_le_mul_iff_of_pos_left wide]

/-- A pan to the left is inside as soon as its frame is within a share of all
frames from the end. -/
theorem panLeft_le_iff
    (wide : 0 < width)
    (oneLe : 1 ≤ greatest)
    (filled : 0 < count) :
    width / greatest - width / greatest / greatest * frame / count ≤
        width - width / greatest ↔
      greatest * (1 - (greatest - 1)) * count ≤ frame := by
  have positive : 0 < greatest := zero_lt_one.trans_le oneLe
  have scale : 0 < greatest * greatest * count := by positivity
  have start :
      width / greatest * (greatest * greatest * count) =
        width * (greatest * count) := by
    field_simp
  rw [← mul_le_mul_iff_of_pos_right scale, sub_mul, start,
    way_mul oneLe filled, hidden_mul oneLe, ← mul_sub,
    mul_le_mul_iff_of_pos_left wide]
  constructor <;> intro ordered <;> linarith

/-- The way of a pan is at most the width divided by the greatest zoom. -/
theorem way_le
    (wide : 0 < width)
    (oneLe : 1 ≤ greatest)
    (filled : 0 < count)
    (before : frame ≤ count) :
    width / greatest / greatest * frame / count ≤ width / greatest := by
  have positive : 0 < greatest := zero_lt_one.trans_le oneLe
  have start : 0 ≤ width / greatest := (div_pos wide positive).le
  calc width / greatest / greatest * frame / count
      = width / greatest / greatest * (frame / count) := mul_div_assoc _ _ _
    _ ≤ width / greatest / greatest * 1 :=
        mul_le_mul_of_nonneg_left ((div_le_one filled).mpr before)
          (div_nonneg start positive.le)
    _ = width / greatest / greatest := mul_one _
    _ ≤ width / greatest := div_le_self start oneLe

end Pans

section Places

variable
  {width zoom : Number}
  {frame : Nat}
  (kind : ZoomKind)
  (wide : 0 < width)
  (oneLe : 1 ≤ greatest)
  (zoomed : 1 ≤ zoom)
  (held : kind = .panLeft ∨ kind = .panRight → zoom = greatest)
  (before : frame < frames)

include wide oneLe zoomed held before

theorem leftOf_nonneg :
    0 ≤
      leftOf kind (width / 2 - width / zoom / 2) width greatest zoom frames
        frame := by
  have filled : (0 : Number) < frames := Nat.cast_pos.mpr (by omega)
  have within : (frame : Number) ≤ frames := Nat.cast_le.mpr before.le
  have hidden := hidden_nonneg wide zoomed
  cases kind with
  | zoomIn =>
      unfold leftOf
      linarith
  | zoomOut =>
      unfold leftOf
      linarith
  | panLeft =>
      rw [held (.inl rfl)]
      have way := way_le wide oneLe filled within
      unfold leftOf
      linarith
  | panRight =>
      have positive : 0 < greatest := zero_lt_one.trans_le oneLe
      rw [held (.inr rfl)]
      unfold leftOf
      positivity

theorem leftOf_le_iff :
    leftOf kind (width / 2 - width / zoom / 2) width greatest zoom frames
          frame ≤
        width - width / zoom ↔
      kind.KeepsInside greatest frames frame := by
  have filled : (0 : Number) < frames := Nat.cast_pos.mpr (by omega)
  have hidden := hidden_nonneg wide zoomed
  cases kind with
  | zoomIn =>
      refine iff_of_true ?_ trivial
      unfold leftOf
      linarith
  | zoomOut =>
      refine iff_of_true ?_ trivial
      unfold leftOf
      linarith
  | panLeft =>
      rw [held (.inl rfl)]
      exact panLeft_le_iff wide oneLe filled
  | panRight =>
      rw [held (.inr rfl)]
      exact panRight_le_iff wide oneLe filled

end Places

/-- The view of a frame is bounded, and it ends inside of the picture as its
movement tells. -/
theorem view?_bounded
    (tells : plan.Tells greatest step frames)
    {frame : Nat}
    (before : frame < frames) :
    ∃ view,
      (plan.stage size rate).view? picture frame = some view ∧
      view.IsBounded picture greatest ∧
      (view.EndsInside picture ↔
        plan.kind.KeepsInside greatest frames frame) := by
  obtain ⟨latest, isLatest, above, below⟩ :=
    zoomAfter?_between size rate picture tells frame
  obtain ⟨oneLe, le_greatest⟩ :=
    nextZoom_between plan.kind tells.oneLe tells.forward above below frame
  have isZoom :
      (plan.stage size rate).zoomAfter? picture (frame + 1) =
        some (nextZoom plan.kind greatest step latest frame) := by
    rw [Filter.zoomAfter?, isLatest, Option.bind_eq_bind, Option.bind_some,
      atFrame?_zoom size rate picture tells]
  have held :
      plan.kind = .panLeft ∨ plan.kind = .panRight →
      nextZoom plan.kind greatest step latest frame = greatest := by
    rintro (isPan | isPan) <;> rw [isPan] <;> rfl
  generalize nextZoom plan.kind greatest step latest frame = zoom at *
  have isTop :
      (plan.stage size rate).atFrame? picture "y" zoom frame =
        some (picture.height / 2 - picture.height / zoom / 2) :=
    evaluate?_centered "ih" (.inr rfl) rfl rfl
      (zero_lt_one.trans_le oneLe).ne' two_ne_zero
  refine ⟨⟨zoom,
    leftOf plan.kind (picture.width / 2 - picture.width / zoom / 2)
      picture.width greatest zoom frames frame,
    picture.height / 2 - picture.height / zoom / 2⟩, ?_, ?_, ?_⟩
  · rw [Filter.view?, isZoom]
    simp only [Option.bind_eq_bind, Option.bind_some,
      atFrame?_left size rate picture tells oneLe, isTop]
    rfl
  · have hidden := hidden_nonneg picture.high oneLe
    exact {
      one_le := oneLe
      le_greatest := le_greatest
      left :=
        leftOf_nonneg plan.kind picture.wide tells.oneLe oneLe held before
      top := by dsimp only; linarith
      bottom := by dsimp only; linarith }
  · exact leftOf_le_iff plan.kind picture.wide tells.oneLe oneLe held before

/-- All views of a movement are inside if the zoom goes in or out, or if a pan to
the right is short enough; a pan to the left begins outside. -/
theorem keepsInside_iff
    (kind : ZoomKind)
    (oneLe : 1 ≤ greatest)
    (leHalf : greatest ≤ 3 / 2)
    (filled : 0 < frames) :
    (∀ frame < frames, kind.KeepsInside greatest frames frame) ↔
      kind = .zoomIn ∨
      kind = .zoomOut ∨
      (kind = .panRight ∧
        (frames - 1 : Number) ≤ greatest * (greatest - 1) * frames) := by
  have someFrames : (0 : Number) < frames := Nat.cast_pos.mpr filled
  cases kind with
  | zoomIn => exact iff_of_true (fun _ _ => trivial) (.inl rfl)
  | zoomOut => exact iff_of_true (fun _ _ => trivial) (.inr (.inl rfl))
  | panLeft =>
      refine iff_of_false (fun keeps => ?_) (by simp)
      have first := keeps 0 filled
      have share : 0 < greatest * (1 - (greatest - 1)) * frames :=
        mul_pos (mul_pos (by linarith) (by linarith)) someFrames
      simp only [ZoomKind.KeepsInside, Nat.cast_zero] at first
      linarith
  | panRight =>
      simp only [reduceCtorEq, true_and, false_or, ZoomKind.KeepsInside]
      constructor
      · intro keeps
        have last := keeps (frames - 1) (by omega)
        rwa [Nat.cast_sub filled, Nat.cast_one] at last
      · intro short frame before
        have within : (frame + 1 : Number) ≤ frames := by
          exact_mod_cast before
        linarith

end ZoomPlan

/--
Every frame of a zoom shows a view with a zoom between one and the greatest,
which leaves the picture neither at the left nor at the upper or lower edge.
It does not leave it at the right edge either if the zoom goes in or out. A pan
does exactly if its frame is not within a share of all frames that is told by
the greatest zoom, at the end of a pan to the left and at the start of a pan to
the right: the first view of a pan to the left always leaves the picture, and
the last of a pan to the right does unless the clip has few frames.
-/
theorem view_leaves_picture_iff
    {sent : Json}
    {effect : ZoomEffect}
    (isRead : ZoomEffect.read sent = .valid effect)
    {duration frameRate : Binary64}
    (isDuration : IsMeasure duration)
    (isRate : IsMeasure frameRate)
    (width height : Json)
    (picture : ZoomedPicture Number) :
    ∃ filter frames,
      ∃ greatest : Number,
        zoomStages effect duration width height frameRate = .ok [filter] ∧
        filter.toldUnder? "d" = some (showInteger (frames : Nat)) ∧
        0 < frames ∧
        Denotes (1 + effect.intensity).sixDigitText greatest ∧
        greatest ≤ 3 / 2 ∧
        (∀ frame < frames,
          ∃ view,
            filter.view? picture frame = some view ∧
            view.IsBounded picture greatest ∧
            (view.EndsInside picture ↔
              effect.kind.KeepsInside greatest frames frame)) ∧
        ((∀ frame < frames, effect.kind.KeepsInside greatest frames frame) ↔
          effect.kind = .zoomIn ∨
          effect.kind = .zoomOut ∨
          (effect.kind = .panRight ∧
            (frames - 1 : Number) ≤ greatest * (greatest - 1) * frames)) := by
  obtain ⟨plan, frames, greatest, step, isPlan, sameKind, isGreatest, tells⟩ :=
    ZoomPlan.ofEffect_tells Number isRead isDuration isRate
  refine ⟨plan.stage (width.plainText ++ "x" ++ height.plainText)
      (String.ofList frameRate.sixDigitText), frames, greatest, ?_, ?_,
    tells.filled, ?_, tells.leHalf, ?_, ?_⟩
  · rw [zoomStages, isRate.isZero_eq_false]
    rw [if_neg Bool.false_ne_true, isPlan]
    rfl
  · rw [← tells.isCount]
    rfl
  · have denotes := tells.greatestZoomText
    rwa [isGreatest, String.toList_ofList] at denotes
  · intro frame before
    rw [← sameKind]
    exact ZoomPlan.view?_bounded _ _ picture tells before
  · exact ZoomPlan.keepsInside_iff effect.kind tells.oneLe tells.leHalf
      tells.filled

end Movements

/-- A pan to the left with the intensity that is taken if none is given. -/
def leftwardPan : ZoomEffect where
  kind := .panLeft
  intensity := 0.2

/-- An upright picture. -/
def uprightPicture : ZoomedPicture ℚ where
  width := 1080
  height := 1920
  wide := by norm_num
  high := by norm_num

/-- The first view of a pan to the left leaves the picture. -/
theorem leftward_pan_begins_outside :
    ZoomEffect.read (.object [("type", .text "pan_left")]) =
      .valid leftwardPan ∧
    IsMeasure 10 ∧
    IsMeasure 30 ∧
    ∃ filter view,
      zoomStages leftwardPan 10 (.integer 1080) (.integer 1920) 30 =
        .ok [filter] ∧
      filter.view? uprightPicture 0 = some view ∧
      ¬ view.EndsInside uprightPicture := by
  have isRead :
      ZoomEffect.read (.object [("type", .text "pan_left")]) =
        .valid leftwardPan := by
    rfl
  have duration : IsMeasure 10 := ⟨by decide +kernel, by decide +kernel⟩
  have rate : IsMeasure 30 := ⟨by decide +kernel, by decide +kernel⟩
  obtain ⟨filter, frames, greatest, isStage, -, filled, -, leHalf, views, -⟩ :=
    view_leaves_picture_iff isRead duration rate (.integer 1080)
      (.integer 1920) uprightPicture
  obtain ⟨view, isView, bounded, inside_iff⟩ := views 0 filled
  refine ⟨isRead, duration, rate, filter, view, isStage, isView, ?_⟩
  rw [inside_iff]
  have someFrames : (0 : ℚ) < frames := Nat.cast_pos.mpr filled
  have oneLe : 1 ≤ greatest := bounded.one_le.trans bounded.le_greatest
  have share : 0 < greatest * (1 - (greatest - 1)) * frames :=
    mul_pos (mul_pos (by linarith) (by linarith)) someFrames
  simpa [leftwardPan, ZoomKind.KeepsInside] using share

end Montage
