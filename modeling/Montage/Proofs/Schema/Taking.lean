import Mathlib.Algebra.Order.Field.Basic
import Mathlib.Data.List.Nodup
import Mathlib.Data.List.Pairwise
import Mathlib.Tactic.FieldSimp
import Mathlib.Tactic.Linarith
import Mathlib.Tactic.NormNum
import Montage.Proofs.Number.Written
import Montage.Proofs.Schema.Clamping

namespace Montage

/-!
# Numbers that fields take

An object is read if each of its fields can be read. A field takes the numbers
of its kind: all numbers, whole ones, or whole ones above zero. So a number that
is set in an object that is read leaves it readable exactly if it is of the kind
of its field.
-/

/-! ## Values that are read -/

namespace Checked

variable {α β : Type} {checked : Checked α}

/-- A value was read. -/
def IsValid (checked : Checked α) : Prop :=
  ∃ value, checked = .valid value

instance (checked : Checked α) : Decidable checked.IsValid :=
  decidable_of_iff (checked.toOption.isSome = true) <| by
    cases checked <;> simp [IsValid, toOption]

theorem isValid_valid (value : α) : (valid value).IsValid :=
  ⟨value, rfl⟩

theorem not_isValid_refuse
    (cause : IssueCause) :
    ¬ (refuse cause : Checked α).IsValid := by
  rintro ⟨value, isValue⟩
  cases isValue

@[simp]
theorem map_isValid_iff
    {transform : α → β} :
    (transform <$> checked).IsValid ↔ checked.IsValid := by
  simp [IsValid, map_eq_valid_iff]

@[simp]
theorem seq_isValid_iff
    {transform : Checked (α → β)} :
    (transform <*> checked).IsValid ↔ transform.IsValid ∧ checked.IsValid := by
  simp [IsValid, seq_eq_valid_iff]

@[simp]
theorem within_isValid_iff
    {step : LocationStep} :
    (checked.within step).IsValid ↔ checked.IsValid := by
  cases checked <;> simp [IsValid, within]

end Checked

/-! ## Kinds of numbers -/

/-- The number that a JSON number denotes, if it is finite. -/
def Json.quantity? : Json → Option ℚ
  | .integer value => some value
  | .number value => if value.isFinite then some value.exact else none
  | _ => none

/-- A JSON number is an integer or a finite `Binary64`. -/
theorem Json.cases_of_quantity?
    {sent : Json}
    {quantity : ℚ}
    (isQuantity : sent.quantity? = some quantity) :
    (∃ number, sent = .integer number ∧ quantity = number) ∨
      ∃ number,
        sent = .number number ∧
        number.isFinite = true ∧
        quantity = number.exact := by
  cases sent with
  | integer number => exact .inl ⟨number, rfl, (Option.some.inj isQuantity).symm⟩
  | number number =>
      have isExact :
          (if number.isFinite then some number.exact else none) =
            some quantity :=
        isQuantity
      by_cases isFinite : number.isFinite = true
      · rw [if_pos isFinite] at isExact
        exact .inr ⟨number, rfl, isFinite, (Option.some.inj isExact).symm⟩
      · rw [if_neg isFinite] at isExact
        cases isExact
  | null => cases isQuantity
  | bool value => cases isQuantity
  | text value => cases isQuantity
  | array items => cases isQuantity
  | object fields => cases isQuantity

/-- Kinds of fields that hold numbers. -/
inductive NumberKind
  | real
  | whole
  | positive
deriving DecidableEq

namespace NumberKind

/-- The numbers of a kind. -/
def Takes : NumberKind → ℚ → Prop
  | .real, _ => True
  | .whole, quantity => ∃ number : Int, quantity = number
  | .positive, quantity => ∃ number : Int, quantity = number ∧ 0 < number

/-- The sizes up to which all numbers of a kind are taken: numbers that have a
nearest `Binary64`; and for fields with whole numbers, integers of any size and
other JSON numbers that are less than a word. -/
def Reaches : NumberKind → Json → ℚ → Prop
  | .real, _, quantity =>
      |quantity| < (powerOfTwo 1024 : ℚ) - powerOfTwo 970
  | _, .number .., quantity => |quantity| < 2 ^ 63
  | _, _, _ => True

/-- A reader takes numbers by their kind. -/
def IsReadBy
    {α : Type}
    (kind : NumberKind)
    (read : Json → Checked α) :
    Prop :=
  ∀ sent quantity,
    sent.quantity? = some quantity →
    kind.Reaches sent quantity →
    ((read sent).IsValid ↔ kind.Takes quantity)

end NumberKind

/-- An integer of the size of a number has a nearest number. -/
theorem ofInteger_isOk_of_reaches
    {number : Int}
    {quantity : ℚ}
    (isQuantity : (Json.integer number).quantity? = some quantity)
    (reaches : NumberKind.real.Reaches (.integer number) quantity) :
    ∃ nearest, Binary64.ofInteger number = .ok nearest := by
  have isNumber : (number : ℚ) = quantity := Option.some.inj isQuantity
  have size : |(number : ℚ)| + powerOfTwo 970 < powerOfTwo 1024 := by
    rw [isNumber]
    exact lt_sub_iff_add_lt.mp reaches
  rw [← Int.cast_abs, Int.abs_eq_natAbs, Int.cast_natCast] at size
  exact Binary64.ofInteger_isOk (by exact_mod_cast size)

theorem readNumber_of_integer
    {sent : Json}
    {number : Int}
    {nearest : Binary64}
    (isInteger : sent = .integer number)
    (isNearest : Binary64.ofInteger number = .ok nearest) :
    readNumber sent = .valid nearest := by
  fun_cases readNumber sent with
  | case2 integer other isOther =>
      rw [Json.integer.inj isInteger, isNearest] at isOther
      rw [Except.ok.inj isOther]
  | case3 integer cause isCause =>
      rw [Json.integer.inj isInteger, isNearest] at isCause
      cases isCause
  | case6 other _ notInteger => exact absurd isInteger (notInteger number)
  | _ => cases isInteger

theorem readNumber_isReadBy : NumberKind.real.IsReadBy readNumber := by
  intro sent quantity isQuantity reaches
  refine iff_of_true ?_ trivial
  rcases Json.cases_of_quantity? isQuantity with
    ⟨number, rfl, _⟩ | ⟨number, rfl, _⟩
  · obtain ⟨nearest, isNearest⟩ := ofInteger_isOk_of_reaches isQuantity reaches
    exact ⟨nearest, readNumber_of_integer rfl isNearest⟩
  · exact Checked.isValid_valid number

/-- A number without a fraction is an integer. -/
theorem Binary64.isIntegral_iff
    (negative : Bool)
    {units : Nat}
    (representable : Representable units) :
    (finite negative units representable).isIntegral = true ↔
      ∃ number : Int,
        (finite negative units representable).exact = number := by
  have unit : (unitsPerOne : ℚ) ≠ 0 := by
    exact_mod_cast unitsPerOne_pos.ne'
  have magnitude := natAbs_signedUnits negative units
  simp only [isIntegral, decide_eq_true_eq]
  rw [exact_finite]
  generalize signedUnits negative units = signed at magnitude ⊢
  generalize unitsPerOne = one at unit ⊢
  rw [← Nat.dvd_iff_mod_eq_zero, ← magnitude, ← Int.natCast_dvd]
  constructor
  · rintro ⟨number, rfl⟩
    refine ⟨number, ?_⟩
    push_cast
    field_simp
  · rintro ⟨number, isNumber⟩
    rw [div_eq_iff unit] at isNumber
    exact ⟨number, by rw [Int.mul_comm]; exact_mod_cast isNumber⟩

/-- What is less than a word is so without its fraction. -/
theorem Binary64.truncate_lt
    {number : Binary64}
    {integer : Int}
    (isTruncated : number.truncate = .ok integer)
    (short : |number.exact| < 2 ^ 63) :
    -wordBound < integer ∧ integer < wordBound := by
  cases number with
  | nan => cases isTruncated
  | infinite negative => cases isTruncated
  | finite negative units representable =>
      have unit : (0 : ℚ) < unitsPerOne := by exact_mod_cast unitsPerOne_pos
      have isInteger : signedUnits negative (units / unitsPerOne) = integer :=
        Except.ok.inj isTruncated
      have magnitude := natAbs_signedUnits negative (units / unitsPerOne)
      have bounded : units < 2 ^ 63 * unitsPerOne := by
        rw [exact_finite, signedUnits_eq, mul_div_assoc, abs_mul, abs_sign,
          one_mul, abs_of_nonneg (div_nonneg (Nat.cast_nonneg _) unit.le),
          div_lt_iff₀ unit] at short
        exact_mod_cast short
      have quotient : units / unitsPerOne < 2 ^ 63 :=
        Nat.div_lt_of_lt_mul (by rwa [Nat.mul_comm])
      rw [isInteger] at magnitude
      unfold wordBound
      omega

/-- A number is read as an integer if it has no fraction. -/
theorem readInteger_of_number
    {sent : Json}
    {number : Binary64}
    (isNumber : sent = .number number)
    (isFinite : number.isFinite = true)
    (short : |number.exact| < 2 ^ 63) :
    (readInteger sent).IsValid ↔ number.isIntegral = true := by
  fun_cases readInteger sent with
  | case2 other integer isTruncated notIntegral =>
      rw [Json.number.inj isNumber] at notIntegral
      refine iff_of_false (Checked.not_isValid_refuse _) ?_
      simpa using notIntegral
  | case3 other integer isTruncated isIntegral inWord =>
      rw [Json.number.inj isNumber] at isIntegral
      refine iff_of_true (Checked.isValid_valid _) ?_
      simpa using isIntegral
  | case4 other integer isTruncated isIntegral outside =>
      rw [Json.number.inj isNumber] at isTruncated
      exact absurd (Binary64.truncate_lt isTruncated short) outside
  | case5 other cause isCause =>
      rw [Json.number.inj isNumber] at isCause
      cases number with
      | nan => cases isFinite
      | infinite negative => cases isFinite
      | finite negative units representable => cases isCause
  | case8 other _ notNumber =>
      exact absurd isNumber (notNumber number)
  | _ => cases isNumber

theorem readInteger_isReadBy : NumberKind.whole.IsReadBy readInteger := by
  intro sent quantity isQuantity reaches
  rcases Json.cases_of_quantity? isQuantity with
    ⟨number, rfl, isNumber⟩ | ⟨number, rfl, isFinite, isExact⟩
  · exact iff_of_true (Checked.isValid_valid number) ⟨number, isNumber⟩
  · have short : |quantity| < 2 ^ 63 := reaches
    rw [isExact] at short
    rw [readInteger_of_number rfl isFinite short, isExact]
    cases number with
    | nan => cases isFinite
    | infinite negative => cases isFinite
    | finite negative units representable =>
        exact Binary64.isIntegral_iff negative representable

/-- What is read as an integer is the number that was sent. -/
theorem quantity_of_readInteger
    {sent : Json}
    {quantity : ℚ}
    {integer : Int}
    (isQuantity : sent.quantity? = some quantity)
    (isRead : readInteger sent = .valid integer) :
    quantity = integer := by
  rcases Json.cases_of_quantity? isQuantity with
    ⟨number, rfl, isNumber⟩ | ⟨number, rfl, isFinite, isExact⟩
  · rw [isNumber, ← Checked.valid.inj isRead]
  · cases number with
    | nan => cases isFinite
    | infinite negative => cases isFinite
    | finite negative units representable =>
        have unit : (unitsPerOne : ℚ) ≠ 0 := by
          exact_mod_cast unitsPerOne_pos.ne'
        have isPlace := place_of_readInteger isRead rfl
        rw [isExact, Binary64.exact_finite, isPlace, Int.cast_mul,
          Int.cast_natCast, mul_div_assoc, div_self unit, mul_one]

theorem readPositive_isReadBy : NumberKind.positive.IsReadBy readPositive := by
  intro sent quantity isQuantity reaches
  have reachesWhole : NumberKind.whole.Reaches sent quantity := by
    cases sent <;> exact reaches
  have isWhole := readInteger_isReadBy sent quantity isQuantity reachesWhole
  constructor
  · rintro ⟨integer, isRead⟩
    obtain ⟨read, isInteger, isChecked⟩ := Checked.andThen_eq_valid isRead
    split at isChecked
    · rename_i above
      exact ⟨read, quantity_of_readInteger isQuantity isInteger, above⟩
    · cases isChecked
  · rintro ⟨number, isNumber, above⟩
    obtain ⟨integer, isRead⟩ := isWhole.mpr ⟨number, isNumber⟩
    have same : integer = number := by
      have isInteger := quantity_of_readInteger isQuantity isRead
      rw [isNumber] at isInteger
      exact_mod_cast isInteger.symm
    rw [← same] at above
    exact ⟨integer, by rw [readPositive, isRead, Checked.andThen, if_pos above]⟩

theorem NumberKind.IsReadBy.map
    {α β : Type}
    {kind : NumberKind}
    {read : Json → Checked α}
    (isReadBy : kind.IsReadBy read)
    (change : α → β) :
    kind.IsReadBy fun sent => (read sent).map change := by
  intro sent quantity isQuantity reaches
  rw [← isReadBy sent quantity isQuantity reaches]
  exact Checked.map_isValid_iff

theorem readNullable_isValid_iff
    {α : Type}
    {read : Json → Checked α}
    {sent : Json}
    (notNull : sent ≠ .null) :
    (readNullable read sent).IsValid ↔ (read sent).IsValid := by
  unfold readNullable
  split
  · exact absurd rfl notNull
  · exact Checked.map_isValid_iff

theorem NumberKind.IsReadBy.nullable
    {α : Type}
    {kind : NumberKind}
    {read : Json → Checked α}
    (isReadBy : kind.IsReadBy read) :
    kind.IsReadBy (readNullable read) := by
  intro sent quantity isQuantity reaches
  rw [← isReadBy sent quantity isQuantity reaches]
  refine readNullable_isValid_iff ?_
  rintro rfl
  cases isQuantity

/-! ## Fields -/

/-- A field with a value for its absence can be read unless what is there
cannot. -/
theorem Fields.withDefault_isValid_iff
    {α : Type}
    {fields : Fields}
    {name : String}
    {default : α}
    {read : Json → Checked α} :
    (fields.withDefault name default read).IsValid ↔
      ∀ sent ∈ getField? name fields, (read sent).IsValid := by
  unfold withDefault
  cases getField? name fields with
  | none => exact iff_of_true (Checked.isValid_valid default) (by simp)
  | some sent => simp

/-- A check of a field: the names under which the field can stand, whether it
can be read in an object, and which numbers it takes. -/
structure FieldCheck where
  names : List String
  passes : Fields → Prop
  kind? : Option NumberKind := none
  /-- Other fields make no difference. -/
  keeps :
    ∀ {name}, name ∉ names → ∀ sent fields,
      passes (setField name sent fields) ↔ passes fields
  /-- In an object in which the field can be read, it takes its kind. -/
  takes :
    ∀ kind ∈ kind?, ∀ name ∈ names, ∀ fields, passes fields →
      ∀ sent quantity,
        sent.quantity? = some quantity →
        kind.Reaches sent quantity →
        (passes (setField name sent fields) ↔ kind.Takes quantity)

namespace Fields

variable {fields : Fields} {check : FieldCheck} {checks : List FieldCheck}

/-- All fields of an object can be read. -/
def Pass (fields : Fields) (checks : List FieldCheck) : Prop :=
  ∀ check ∈ checks, check.passes fields

theorem pass_nil : fields.Pass [] ↔ True := by
  simp [Pass]

theorem pass_cons :
    fields.Pass (check :: checks) ↔
      check.passes fields ∧ fields.Pass checks :=
  List.forall_mem_cons

end Fields

namespace FieldCheck

variable {α : Type}

/-- The check of a field with a value for its absence. -/
def ofField
    (name : String)
    (default : α)
    (read : Json → Checked α)
    (kind? : Option NumberKind)
    (isReadBy : ∀ kind ∈ kind?, kind.IsReadBy read) :
    FieldCheck where
  names := [name]
  passes fields := (fields.withDefault name default read).IsValid
  kind?
  keeps := by
    intro other notName sent fields
    have different : name ≠ other := by
      rintro rfl
      exact notName (List.mem_singleton.mpr rfl)
    rw [Fields.withDefault_isValid_iff, Fields.withDefault_isValid_iff,
      getField?_setField_of_ne different]
  takes := by
    intro kind isKind other isName fields _ sent quantity isQuantity reaches
    rw [List.mem_singleton.mp isName, Fields.withDefault_isValid_iff,
      getField?_setField_self]
    simpa using isReadBy kind isKind sent quantity isQuantity reaches

/-- The check of a field with numbers of a kind. -/
def numeric
    (name : String)
    (default : α)
    {read : Json → Checked α}
    {kind : NumberKind}
    (isReadBy : kind.IsReadBy read) :
    FieldCheck :=
  ofField name default read (some kind) fun _ isKind =>
    Option.some.inj isKind ▸ isReadBy

/-- The check of a field without numbers. -/
def plain
    (name : String)
    (default : α)
    (read : Json → Checked α) :
    FieldCheck :=
  ofField name default read none (by simp)

/-- The check of a field without numbers that may be null. -/
def nullable
    (name : String)
    (read : Json → Checked α) :
    FieldCheck :=
  plain name none (readNullable read)

/-- The check of a field without numbers that has to be there. -/
def required
    (name : String)
    (read : Json → Checked α) :
    FieldCheck where
  names := [name]
  passes fields := (fields.required name read).IsValid
  keeps := by
    intro other notName sent fields
    have different : name ≠ other := by
      rintro rfl
      exact notName (List.mem_singleton.mpr rfl)
    unfold Fields.required
    rw [getField?_setField_of_ne different]
  takes := by simp

end FieldCheck

/-- The check of a parameter that is a real number. -/
def Parameter.check (parameter : Parameter Binary64) : FieldCheck :=
  .numeric parameter.name parameter.default (readNumber_isReadBy.map _ :
    NumberKind.real.IsReadBy parameter.readValue)

/-- The check of a parameter that is an integer. -/
def Parameter.wholeCheck (parameter : Parameter Int) : FieldCheck :=
  .numeric parameter.name parameter.default (readInteger_isReadBy.map _ :
    NumberKind.whole.IsReadBy parameter.readValue)

/-- The check of a real number that may be left out. -/
def OptionalParameter.check
    (parameter : OptionalParameter Binary64) :
    FieldCheck :=
  .numeric parameter.name none
    (readNumber_isReadBy.map (Numeric.clamp parameter.range)).nullable

/-- The check of an integer that may be left out. -/
def OptionalParameter.wholeCheck
    (parameter : OptionalParameter Int) :
    FieldCheck :=
  .numeric parameter.name none
    (readInteger_isReadBy.map (Numeric.clamp parameter.range)).nullable

/-- The check of an integer above zero that may be left out. -/
def FieldCheck.positive (name : String) : FieldCheck :=
  .numeric name none readPositive_isReadBy.nullable

/-! ## Objects -/

/-- Of values that are set under a name, the last one remains. -/
theorem setField_setField
    {α : Type}
    (name : String)
    (first second : α)
    (fields : List (String × α)) :
    setField name second (setField name first fields) =
      setField name second fields := by
  induction fields with
  | nil => simp [setField]
  | cons field rest inductionHypothesis =>
      by_cases same : field.1 = name
      · simp [setField, same]
      · simp [setField, same, inductionHypothesis]

namespace Fields

variable {fields : Fields} {check : FieldCheck} {checks : List FieldCheck}
  {name : String} {sent : Json}

section Distinct

variable
  (distinct : (checks.flatMap FieldCheck.names).Nodup)
  (pass : fields.Pass checks)
  (member : check ∈ checks)
  (isName : name ∈ check.names)

include distinct pass member isName

/-- An object that can be read still can if the field that was set can be
read. -/
theorem pass_setField_iff :
    Pass (setField name sent fields) checks ↔
      check.passes (setField name sent fields) := by
  constructor
  · exact fun passes => passes check member
  · intro passes other isOther
    by_cases same : other = check
    · rw [same]
      exact passes
    · have symmetric :
          Std.Symm (Function.onFun List.Disjoint FieldCheck.names) :=
        ⟨fun _ _ disjoint _ first second => disjoint second first⟩
      have apart : List.Disjoint other.names check.names :=
        (List.nodup_flatMap.mp distinct).2.forall isOther member same
      exact (other.keeps (fun isIn => apart isIn isName) sent fields).mpr
        (pass other isOther)

/-- In an object that can be read, a field takes the numbers of its kind. -/
theorem pass_setField_iff_takes
    {kind : NumberKind}
    (isKind : kind ∈ check.kind?)
    {quantity : ℚ}
    (isQuantity : sent.quantity? = some quantity)
    (reaches : kind.Reaches sent quantity) :
    Pass (setField name sent fields) checks ↔ kind.Takes quantity :=
  (pass_setField_iff distinct pass member isName).trans
    (check.takes kind isKind name isName fields (pass check member) sent
      quantity isQuantity reaches)

end Distinct

end Fields

end Montage
