import Montage.Json.Access
import Montage.Proofs.Effect.Ranges
import Montage.Proofs.Number.Order

namespace Montage

/-!
# Numbers that are clamped

A numeric parameter ends up in its range whatever was sent. A number that was
sent inside the range keeps its place in the numeric order, and a value that was
clamped is read again as it is.
-/

/-! ## Integers that are read as numbers -/

/-- An integer that is read as a number is read as the nearest one. -/
theorem ofInteger_of_readNumber
    {sent : Json}
    {number : Int}
    {value : Binary64}
    (isInteger : sent = .integer number)
    (isRead : readNumber sent = .valid value) :
    Binary64.ofInteger number = .ok value := by
  revert isRead
  fun_cases readNumber sent with
  | case2 integer nearest isNearest =>
      intro isRead
      rw [← Json.integer.inj isInteger, isNearest, Checked.valid.inj isRead]
  | case3 integer cause isCause =>
      intro isRead
      cases isRead
  | case6 other _ notInteger => exact absurd isInteger (notInteger number)
  | _ => cases isInteger

/-! ## Places of numbers -/

/-- The place of a JSON number in the numeric order, in units. -/
def Json.place? : Json → Option Int
  | .integer value => some (value * unitsPerOne)
  | .number value => value.position
  | _ => none

/-- A number that was sent lies in a range. -/
def Range.Covers
    {α : Type}
    [Numeric α]
    (range : Range α)
    (value : Json) :
    Prop :=
  ∃ low place high,
    (Numeric.toJson range.low).place? = some low ∧
    value.place? = some place ∧
    (Numeric.toJson range.high).place? = some high ∧
    low ≤ place ∧ place ≤ high

/-- Numbers that are read as they are written. -/
class LawfulNumeric
    (α : Type)
    [Numeric α] :
    Prop where
  reads : ∀ value : α, Numeric.read (Numeric.toJson value) = .valid value
  notNull : ∀ value : α, Numeric.toJson value ≠ .null

instance : LawfulNumeric Binary64 where
  reads _ := rfl
  notNull _ := Json.noConfusion

instance : LawfulNumeric Int where
  reads _ := rfl
  notNull _ := Json.noConfusion

/-- What it means to clamp into a range, whatever was read. -/
structure Range.Clamps
    {α : Type}
    [Numeric α]
    (range : Range α) :
    Prop where
  covers :
    ∀ value, range.Covers (Numeric.toJson (Numeric.clamp range value))
  keeps :
    ∀ sent value,
      Numeric.read sent = .valid value →
      range.Covers sent →
      (Numeric.toJson (Numeric.clamp range value)).place? = sent.place?
  again :
    ∀ value,
      Numeric.clamp range (Numeric.clamp range value) =
        Numeric.clamp range value

/-! ## Ranges of binary64 numbers -/

namespace Binary64

/-- A number is clamped to an end of the range, or lies between the ends. -/
theorem clamp_cases
    (range : Range Binary64)
    (value : Binary64) :
    clamp range value = range.low ∨
    (clamp range value = range.high ∧
      range.low.less range.high = true) ∨
    (clamp range value = value ∧
      range.low.less value = true ∧
      value.less range.high = true) := by
  unfold clamp maximum minimum
  cases below : value.less range.high with
  | true => cases above : range.low.less value <;> simp [above]
  | false => cases proper : range.low.less range.high <;> simp [proper]

/-- What was clamped stays as it is. -/
theorem clamp_clamp
    (range : Range Binary64)
    (value : Binary64) :
    clamp range (clamp range value) = clamp range value := by
  rcases clamp_cases range value with
    isLow | ⟨isHigh, proper⟩ | ⟨isValue, above, below⟩
  · rw [isLow]
    unfold clamp maximum minimum
    cases proper : range.low.less range.high <;> simp [proper]
  · rw [isHigh]
    simp [clamp, maximum, minimum, proper]
  · rw [isValue]
    simp [clamp, maximum, minimum, above, below]

/-- A number in the range keeps its place. -/
theorem position_clamp
    {range : Range Binary64}
    {value : Binary64}
    {low place high : Int}
    (isLow : range.low.position = some low)
    (isPlace : value.position = some place)
    (isHigh : range.high.position = some high)
    (above : low ≤ place)
    (below : place ≤ high) :
    (clamp range value).position = some place := by
  have lessLow : range.low.less value = decide (low < place) := by
    simp [less, isLow, isPlace]
  have lessHigh : value.less range.high = decide (place < high) := by
    simp [less, isHigh, isPlace]
  have proper : range.low.less range.high = decide (low < high) := by
    simp [less, isLow, isHigh]
  unfold clamp maximum minimum
  rw [lessHigh]
  by_cases notHigh : place < high
  · simp only [notHigh, decide_true, ↓reduceIte, lessLow, decide_eq_true_eq]
    split
    · exact isPlace
    · rw [isLow, Option.some.injEq]
      omega
  · simp only [notHigh, decide_false, Bool.false_eq_true, ↓reduceIte, proper,
      decide_eq_true_eq]
    split
    · rw [isHigh, Option.some.injEq]
      omega
    · rw [isLow, Option.some.injEq]
      omega

end Binary64

/-- The ends of a range are ordered, and so small that all integers between
them are held exactly. -/
structure Range.IsShort (range : Range Binary64) : Prop where
  ordered : range.low.atMost range.high = true
  low : Binary64.less (-9007199254740992) range.low = true
  high : range.high.less 9007199254740992 = true

instance (range : Range Binary64) : Decidable range.IsShort :=
  decidable_of_iff
    (range.low.atMost range.high = true ∧
      Binary64.less (-9007199254740992) range.low = true ∧
      range.high.less 9007199254740992 = true)
    ⟨fun ends => ⟨ends.1, ends.2.1, ends.2.2⟩,
      fun short => ⟨short.ordered, short.low, short.high⟩⟩

theorem Binary64.position_greatest :
    (9007199254740992 : Binary64).position =
      some (9007199254740992 * (unitsPerOne : Int)) := by
  decide +kernel

theorem Binary64.position_least :
    (-9007199254740992 : Binary64).position =
      some (-9007199254740992 * (unitsPerOne : Int)) := by
  decide +kernel

/-- Integers in a short range are below the number of 54 binary digits. -/
theorem Range.IsShort.natAbs_lt
    {range : Range Binary64}
    (short : range.IsShort)
    {number : Int}
    (covered : range.Covers (.integer number)) :
    number.natAbs < powerOfTwo 53 := by
  obtain ⟨low, place, high, isLow, isPlace, isHigh, above, below⟩ := covered
  have aboveLeast := short.low
  have belowGreatest := short.high
  unfold Binary64.less at aboveLeast belowGreatest
  rw [Binary64.position_least, show range.low.position = some low from isLow]
    at aboveLeast
  rw [Binary64.position_greatest, show range.high.position = some high from isHigh]
    at belowGreatest
  have isProduct : number * unitsPerOne = place := Option.some.inj isPlace
  have positive : (0 : Int) < unitsPerOne := Int.natCast_pos.mpr (powerOfTwo_pos 1074)
  have whole : powerOfTwo 53 = 9007199254740992 := by decide
  rw [whole]
  clear isPlace isLow isHigh
  generalize (unitsPerOne : Int) = unit at *
  have atLeast : -9007199254740992 * unit < number * unit := by
    rw [decide_eq_true_eq] at aboveLeast
    omega
  have atGreatest : number * unit < 9007199254740992 * unit := by
    rw [decide_eq_true_eq] at belowGreatest
    omega
  have lower := Int.lt_of_mul_lt_mul_right atLeast (Int.le_of_lt positive)
  have upper := Int.lt_of_mul_lt_mul_right atGreatest (Int.le_of_lt positive)
  omega

theorem Range.IsShort.clamps
    {range : Range Binary64}
    (short : range.IsShort) :
    range.Clamps where
  covers := by
    intro value
    have holds := Binary64.clamp_holds short.ordered value
    obtain ⟨low, place, isLow, isPlace, above⟩ :=
      Binary64.atMost_iff.mp holds.low
    obtain ⟨other, high, isOther, isHigh, below⟩ :=
      Binary64.atMost_iff.mp holds.high
    rw [isPlace, Option.some.injEq] at isOther
    exact ⟨low, place, high, isLow, isPlace, isHigh, above, isOther ▸ below⟩
  keeps := by
    intro sent value isRead covered
    have covers := covered
    obtain ⟨low, place, high, isLow, isPlace, isHigh, above, below⟩ := covered
    have samePlace : value.position = some place := by
      cases sent with
      | number number =>
          cases isRead
          exact isPlace
      | integer number =>
          have isValue : Binary64.ofInteger number = .ok value :=
            ofInteger_of_readNumber rfl isRead
          rw [← isPlace]
          exact Binary64.position_of_ofInteger (short.natAbs_lt covers) isValue
      | null => exact nomatch isPlace
      | bool value => exact nomatch isPlace
      | text value => exact nomatch isPlace
      | array items => exact nomatch isPlace
      | object fields => exact nomatch isPlace
    rw [isPlace]
    exact Binary64.position_clamp isLow samePlace isHigh above below
  again := Binary64.clamp_clamp range

/-! ## Ranges of integers -/

/-- A number without fraction has the place of its integer part. -/
theorem Binary64.position_of_truncate
    {value : Binary64}
    {integer : Int}
    (isTruncated : value.truncate = .ok integer)
    (isIntegral : value.isIntegral = true) :
    value.position = some (integer * unitsPerOne) := by
  cases value with
  | nan => cases isTruncated
  | infinite negative => cases isTruncated
  | finite negative units representable =>
      have divides : unitsPerOne ∣ units :=
        Nat.dvd_of_mod_eq_zero (of_decide_eq_true isIntegral)
      have isQuotient : signedUnits negative (units / unitsPerOne) = integer :=
        Except.ok.inj isTruncated
      have isWhole : units / unitsPerOne * unitsPerOne = units :=
        Nat.div_mul_cancel divides
      rw [← isQuotient]
      generalize units / unitsPerOne = quotient at isWhole ⊢
      generalize unitsPerOne = unit at isWhole ⊢
      unfold position signedUnits
      cases negative with
      | true => simp [← isWhole]
      | false => simp [← isWhole]

/-- What is read as an integer keeps its place, if it has one. -/
theorem place_of_readInteger
    {sent : Json}
    {value place : Int}
    (isRead : readInteger sent = .valid value)
    (isPlace : sent.place? = some place) :
    place = value * unitsPerOne := by
  revert isRead
  fun_cases readInteger sent with
  | case1 integer =>
      intro isRead
      rw [← Checked.valid.inj isRead]
      exact (Option.some.inj isPlace).symm
  | case2 number integer isTruncated notIntegral =>
      intro isRead
      cases isRead
  | case3 number integer isTruncated isIntegral inWord =>
      intro isRead
      rw [← Checked.valid.inj isRead]
      have isWhole : number.isIntegral = true := by simpa using isIntegral
      have place := Binary64.position_of_truncate isTruncated isWhole
      exact Option.some.inj (isPlace.symm.trans place)
  | case4 number integer isTruncated isIntegral outside =>
      intro isRead
      cases isRead
  | case5 number cause isCause =>
      intro isRead
      cases isRead
  | case8 other _ _ _ _ =>
      intro isRead
      cases isRead
  | _ => exact nomatch isPlace

theorem Range.clamps_of_le
    {range : Range Int}
    (ordered : range.low ≤ range.high) :
    range.Clamps where
  covers := by
    intro value
    have positive : (0 : Int) ≤ unitsPerOne := Int.natCast_nonneg _
    refine ⟨_, _, _, rfl, rfl, rfl, ?_, ?_⟩
    · exact Int.mul_le_mul_of_nonneg_right (Int.le_max_left _ _) positive
    · refine Int.mul_le_mul_of_nonneg_right ?_ positive
      exact Int.max_le.mpr ⟨ordered, Int.min_le_left _ _⟩
  keeps := by
    intro sent value isRead covered
    obtain ⟨low, place, high, isLow, isPlace, isHigh, above, below⟩ := covered
    have isProduct := place_of_readInteger isRead isPlace
    have positive : (0 : Int) < unitsPerOne :=
      Int.natCast_pos.mpr (powerOfTwo_pos 1074)
    have isLowest : range.low * unitsPerOne = low := Option.some.inj isLow
    have isHighest : range.high * unitsPerOne = high := Option.some.inj isHigh
    have between : range.low ≤ value ∧ value ≤ range.high := by
      clear isLow isHigh isPlace
      generalize (unitsPerOne : Int) = unit at *
      exact ⟨Int.le_of_mul_le_mul_right (by omega) positive,
        Int.le_of_mul_le_mul_right (by omega) positive⟩
    have kept : Numeric.clamp range value = value := by
      change clampInteger range value = value
      unfold clampInteger
      omega
    rw [kept, isPlace, isProduct]
    rfl
  again := by
    intro value
    change clampInteger range (clampInteger range value) =
      clampInteger range value
    unfold clampInteger
    omega

/-! ## Fields -/

/-- A field was absent and has its default, or it was read. -/
theorem Fields.withDefault_cases
    {α : Type}
    {fields : Fields}
    {name : String}
    {default result : α}
    {read : Json → Checked α}
    (isRead : fields.withDefault name default read = .valid result) :
    (getField? name fields = none ∧ result = default) ∨
    ∃ sent, getField? name fields = some sent ∧ read sent = .valid result := by
  unfold withDefault at isRead
  cases found : getField? name fields with
  | none =>
      rw [found] at isRead
      exact .inl ⟨rfl, (Checked.valid.inj isRead).symm⟩
  | some sent =>
      rw [found] at isRead
      exact .inr ⟨sent, rfl, Checked.within_eq_valid isRead⟩

/-- A field was absent or null, or it was read. -/
theorem Fields.optional_cases
    {α : Type}
    {fields : Fields}
    {name : String}
    {result : Option α}
    {read : Json → Checked α}
    (isRead : fields.optional name read = .valid result) :
    ((∀ sent ∈ getField? name fields, sent = .null) ∧ result = none) ∨
    ∃ sent value,
      getField? name fields = some sent ∧
      read sent = .valid value ∧
      result = some value := by
  rcases withDefault_cases isRead with ⟨absent, isNone⟩ | ⟨sent, found, isSent⟩
  · exact .inl ⟨by simp [absent], isNone⟩
  · unfold readNullable at isSent
    split at isSent
    · exact .inl ⟨by simp [found], (Checked.valid.inj isSent).symm⟩
    · obtain ⟨value, isValue, same⟩ := Checked.map_eq_valid isSent
      exact .inr ⟨sent, value, found, isValue, same.symm⟩

/-- What was read is read again from what it is written as. -/
structure ReadsBack
    {α : Type}
    (read : Json → Checked α)
    (toJson : α → Json) :
    Prop where
  again :
    ∀ {sent value},
      read sent = .valid value → read (toJson value) = .valid value
  notNull : ∀ value, toJson value ≠ .null

namespace ReadsBack

variable
  {α : Type}
  {read : Json → Checked α}
  {toJson : α → Json}
  {fields written : Fields}
  {name : String}

theorem required
    (readsBack : ReadsBack read toJson)
    {value : α}
    (isRead : fields.required name read = .valid value)
    (isWritten : getField? name written = some (toJson value)) :
    written.required name read = .valid value := by
  unfold Fields.required at isRead ⊢
  rw [isWritten]
  split at isRead
  · exact congrArg (Checked.within _)
      (readsBack.again (Checked.within_eq_valid isRead))
  · cases isRead

theorem withDefault
    (readsBack : ReadsBack read toJson)
    {default value : α}
    (isDefault : read (toJson default) = .valid default)
    (isRead : fields.withDefault name default read = .valid value)
    (isWritten : getField? name written = some (toJson value)) :
    written.withDefault name default read = .valid value := by
  have isAgain : read (toJson value) = .valid value := by
    rcases Fields.withDefault_cases isRead with ⟨_, same⟩ | ⟨sent, _, isSent⟩
    · rw [same]
      exact isDefault
    · exact readsBack.again isSent
  unfold Fields.withDefault
  rw [isWritten]
  exact congrArg (Checked.within _) isAgain

theorem optional
    (readsBack : ReadsBack read toJson)
    {value : Option α}
    (isRead : fields.optional name read = .valid value)
    (isWritten : getField? name written = some (Json.ofOption toJson value)) :
    written.optional name read = .valid value := by
  unfold Fields.optional Fields.withDefault
  rw [isWritten]
  rcases Fields.optional_cases isRead with
    ⟨_, isNone⟩ | ⟨sent, inner, _, isSent, isSome⟩
  · rw [isNone]
    rfl
  · rw [isSome]
    have isAgain : readNullable read (toJson inner) = .valid (some inner) := by
      unfold readNullable
      split
      · exact absurd ‹_› (readsBack.notNull inner)
      · rw [readsBack.again isSent]
        rfl
    exact congrArg (Checked.within _) isAgain

end ReadsBack

/-! ## Values that are read as they are written -/

/-- An optional text is written like any optional value. -/
theorem Json.ofText?_eq (value : Option String) :
    ofText? value = ofOption text value := by
  cases value <;> rfl

/-- An optional number is written like any optional value. -/
theorem Json.ofNumber?_eq (value : Option Binary64) :
    ofNumber? value = ofOption Numeric.toJson value := by
  cases value <;> rfl

/-- An optional integer is written like any optional value. -/
theorem Json.ofInteger?_eq (value : Option Int) :
    ofInteger? value = ofOption Numeric.toJson value := by
  cases value <;> rfl

theorem readText_readsBack : ReadsBack readText .text where
  again := fun _ => rfl
  notNull := fun _ => Json.noConfusion

theorem readMatching_readsBack
    {satisfies : List Char → Bool}
    {pattern : String} :
    ReadsBack (readMatching satisfies pattern) .text where
  again := by
    intro sent text isRead
    obtain ⟨other, _, isDenoted⟩ := Checked.andThen_eq_valid isRead
    have same : other = text := by
      unfold readDenoting at isDenoted
      split at isDenoted
      · cases isDenoted
      · dsimp only at isDenoted
        split at isDenoted
        · exact Checked.valid.inj isDenoted
        · cases isDenoted
    rw [same] at isDenoted
    exact isDenoted
  notNull := fun _ => Json.noConfusion

theorem readPositive_readsBack :
    ReadsBack readPositive Numeric.toJson where
  again := by
    intro sent value isRead
    obtain ⟨integer, _, isChecked⟩ := Checked.andThen_eq_valid isRead
    have same : integer = value := by
      split at isChecked
      · exact Checked.valid.inj isChecked
      · cases isChecked
    rw [same] at isChecked
    exact isChecked
  notNull := fun _ => Json.noConfusion

theorem readBoolean_readsBack : ReadsBack readBoolean .bool where
  again := fun _ => rfl
  notNull := fun _ => Json.noConfusion

/-- A choice is read back if every name is the name of one value only. -/
theorem Choice.readsBack
    {α : Type}
    [Choice α]
    (legible : ∀ value : α, Choice.read (Choice.toJson value) = .valid value) :
    ReadsBack Choice.read (Choice.toJson : α → Json) where
  again := fun _ => legible _
  notNull := fun _ => Json.noConfusion

theorem Choice.readField_readsBack
    {α : Type}
    [Choice α]
    (legible : ∀ value : α, Choice.read (Choice.toJson value) = .valid value)
    {fields written : Fields}
    {name : String}
    {default value : α}
    (isRead : Choice.readField fields name default = .valid value)
    (isWritten : getField? name written = some (Choice.toJson value)) :
    Choice.readField written name default = .valid value :=
  (Choice.readsBack legible).withDefault (legible default) isRead isWritten

/-! ## Parameters -/

namespace Parameter

variable {α : Type} [Numeric α]

/-- A parameter that clamps, with a default inside its range. -/
structure IsRegular (parameter : Parameter α) : Prop where
  clamps : parameter.range.Clamps
  default :
    Numeric.clamp parameter.range parameter.default = parameter.default

/-- What a parameter may become of what was sent. -/
structure Settles
    (parameter : Parameter α)
    (fields : Fields)
    (value : α) :
    Prop where
  inRange : parameter.range.Covers (Numeric.toJson value)
  kept :
    ∀ sent ∈ getField? parameter.name fields,
      parameter.range.Covers sent →
      (Numeric.toJson value).place? = sent.place?

theorem IsRegular.settles
    {parameter : Parameter α}
    (regular : parameter.IsRegular)
    {fields : Fields}
    {value : α}
    (isRead : parameter.read fields = .valid value) :
    parameter.Settles fields value := by
  rcases Fields.withDefault_cases isRead with
    ⟨absent, isDefault⟩ | ⟨sent, found, isSent⟩
  · refine ⟨?_, by simp [absent]⟩
    rw [isDefault, ← regular.default]
    exact regular.clamps.covers parameter.default
  · obtain ⟨number, isNumber, rfl⟩ := Checked.map_eq_valid isSent
    refine ⟨regular.clamps.covers number, ?_⟩
    intro other isOther covered
    obtain rfl : sent = other := Option.some.inj (found.symm.trans isOther)
    exact regular.clamps.keeps sent number isNumber covered

/-- A parameter that was read stays as it is when it is clamped again. -/
theorem IsRegular.again
    {parameter : Parameter α}
    (regular : parameter.IsRegular)
    {fields : Fields}
    {value : α}
    (isRead : parameter.read fields = .valid value) :
    Numeric.clamp parameter.range value = value := by
  rcases Fields.withDefault_cases isRead with ⟨_, same⟩ | ⟨sent, _, isSent⟩
  · rw [same]
    exact regular.default
  · obtain ⟨number, _, rfl⟩ := Checked.map_eq_valid isSent
    exact regular.clamps.again number

end Parameter

namespace OptionalParameter

variable {α : Type} [Numeric α]

/-- What a parameter that may be left out may become of what was sent. -/
structure Settles
    (parameter : OptionalParameter α)
    (fields : Fields)
    (value : Option α) :
    Prop where
  inRange :
    ∀ number ∈ value, parameter.range.Covers (Numeric.toJson number)
  kept :
    ∀ sent ∈ getField? parameter.name fields,
      parameter.range.Covers sent →
      ∃ number ∈ value, (Numeric.toJson number).place? = sent.place?

theorem settles
    {parameter : OptionalParameter α}
    (clamps : parameter.range.Clamps)
    {fields : Fields}
    {value : Option α}
    (isRead : parameter.read fields = .valid value) :
    parameter.Settles fields value := by
  rcases Fields.optional_cases isRead with
    ⟨absent, isNone⟩ | ⟨sent, inner, found, isSent, isSome⟩
  · refine ⟨by simp [isNone], ?_⟩
    intro sent found covered
    obtain ⟨_, _, _, _, isPlace, _⟩ := covered
    rw [absent sent found] at isPlace
    exact nomatch isPlace
  · obtain ⟨number, isNumber, rfl⟩ := Checked.map_eq_valid isSent
    rw [isSome]
    refine ⟨?_, ?_⟩
    · intro other isOther
      rw [← Option.some.inj isOther]
      exact clamps.covers number
    · intro other isOther covered
      obtain rfl : sent = other := Option.some.inj (found.symm.trans isOther)
      exact ⟨_, rfl, clamps.keeps sent number isNumber covered⟩

end OptionalParameter

section

variable {α : Type} [Numeric α] [LawfulNumeric α]

/-- What was clamped is read again as it is. -/
theorem Range.Clamps.readsBack
    {range : Range α}
    (clamps : range.Clamps) :
    ReadsBack
      (fun value => (Numeric.read value).map (Numeric.clamp range))
      Numeric.toJson where
  again := by
    intro sent value isRead
    obtain ⟨number, _, rfl⟩ := Checked.map_eq_valid isRead
    rw [LawfulNumeric.reads]
    exact congrArg Checked.valid (clamps.again number)
  notNull := LawfulNumeric.notNull

theorem Parameter.read_of_written
    {parameter : Parameter α}
    {written : Fields}
    {value : α}
    (isKept : Numeric.clamp parameter.range value = value)
    (isWritten :
      getField? parameter.name written = some (Numeric.toJson value)) :
    parameter.read written = .valid value := by
  have isAgain : parameter.readValue (Numeric.toJson value) = .valid value := by
    unfold readValue
    rw [LawfulNumeric.reads]
    exact congrArg Checked.valid isKept
  unfold read Fields.withDefault
  rw [isWritten]
  exact congrArg (Checked.within _) isAgain

theorem Parameter.IsRegular.readsBack
    {parameter : Parameter α}
    (regular : parameter.IsRegular)
    {fields written : Fields}
    {value : α}
    (isRead : parameter.read fields = .valid value)
    (isWritten :
      getField? parameter.name written = some (Numeric.toJson value)) :
    parameter.read written = .valid value :=
  read_of_written (regular.again isRead) isWritten

end

end Montage
