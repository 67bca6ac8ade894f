import Montage.Request.Timeline

namespace Montage

/-!
# Accepted segments

What is sure about every segment that was read: whatever refers to a file has
an address, videos end, ends come after starts, and no time is negative.
-/

namespace Checked

variable {α β : Type}

theorem map_eq_valid
    {transform : α → β}
    {checked : Checked α}
    {result : β}
    (isValid : transform <$> checked = .valid result) :
    ∃ value, checked = .valid value ∧ transform value = result := by
  cases checked with
  | valid value =>
      cases isValid
      exact ⟨value, rfl, rfl⟩
  | invalid issues => cases isValid

theorem map_eq_valid_iff
    {transform : α → β}
    {checked : Checked α}
    {result : β} :
    transform <$> checked = .valid result ↔
      ∃ value, checked = .valid value ∧ transform value = result :=
  ⟨map_eq_valid, by rintro ⟨value, rfl, rfl⟩; rfl⟩

theorem seq_eq_valid
    {transform : Checked (α → β)}
    {checked : Checked α}
    {result : β}
    (isValid : transform <*> checked = .valid result) :
    ∃ function value,
      transform = .valid function ∧
      checked = .valid value ∧
      function value = result := by
  cases transform with
  | valid function =>
      cases checked with
      | valid value =>
          cases isValid
          exact ⟨function, value, rfl, rfl, rfl⟩
      | invalid issues => cases isValid
  | invalid issues =>
      cases checked with
      | valid value => cases isValid
      | invalid others => cases isValid

theorem seq_eq_valid_iff
    {transform : Checked (α → β)}
    {checked : Checked α}
    {result : β} :
    transform <*> checked = .valid result ↔
      ∃ function value,
        transform = .valid function ∧
        checked = .valid value ∧
        function value = result :=
  ⟨seq_eq_valid, by rintro ⟨function, value, rfl, rfl, rfl⟩; rfl⟩

theorem eq_valid_of_toOption
    {checked : Checked α}
    {value : α}
    (isValue : checked.toOption = some value) :
    checked = .valid value := by
  cases checked with
  | valid read => exact congrArg valid (Option.some.inj isValue)
  | invalid issues => cases isValue

theorem andThen_eq_valid
    {checked : Checked α}
    {check : α → Checked β}
    {result : β}
    (isValid : checked.andThen check = .valid result) :
    ∃ value, checked = .valid value ∧ check value = .valid result := by
  cases checked with
  | valid value => exact ⟨value, rfl, isValid⟩
  | invalid issues => cases isValid

theorem within_eq_valid
    {step : LocationStep}
    {checked : Checked α}
    {result : α}
    (isValid : checked.within step = .valid result) :
    checked = .valid result := by
  cases checked with
  | valid value => exact isValid
  | invalid issues => cases isValid

end Checked

/-! ## Fields -/

/-- What was read as a number that is zero or more. -/
theorem nonnegative_of_readNonnegative
    {value : Json}
    {number : Binary64}
    (isRead : readNonnegative value = .valid number) :
    Binary64.atMost 0 number = true := by
  obtain ⟨read, _, isChecked⟩ := Checked.andThen_eq_valid isRead
  split at isChecked
  · rename_i nonnegative
    cases isChecked
    exact nonnegative
  · cases isChecked

theorem Fields.withDefault_eq_valid
    {α : Type}
    {fields : Fields}
    {name : String}
    {default result : α}
    {read : Json → Checked α}
    (isRead : fields.withDefault name default read = .valid result) :
    result = default ∨ ∃ value, read value = .valid result := by
  unfold withDefault at isRead
  split at isRead
  · rename_i value _
    exact .inr ⟨value, Checked.within_eq_valid isRead⟩
  · cases isRead
    exact .inl rfl

/-- A field that may be left out was left out, or was read. -/
theorem Fields.optional_eq_valid
    {α : Type}
    {fields : Fields}
    {name : String}
    {result : α}
    {read : Json → Checked α}
    (isRead : fields.optional name read = .valid (some result)) :
    ∃ value, read value = .valid result := by
  rcases withDefault_eq_valid isRead with isDefault | ⟨value, isValue⟩
  · cases isDefault
  · unfold readNullable at isValue
    split at isValue
    · cases isValue
    · obtain ⟨inner, isInner, same⟩ := Checked.map_eq_valid isValue
      cases same
      exact ⟨value, isInner⟩

namespace TimelineEntry

/-- A segment that was accepted. -/
def IsAccepted (entry : TimelineEntry) : Prop :=
  ∃ value, read value = .valid entry

/-- What is sure about an accepted segment. -/
structure IsComplete (entry : TimelineEntry) : Prop where
  hasAddress : entry.kind ≠ .subtitle → ∃ url, entry.url = some url
  ends : entry.kind = .video → ∃ stop, entry.stop = some stop
  start : Binary64.atMost 0 entry.start = true
  stop : ∀ stop ∈ entry.stop, Binary64.atMost 0 stop = true

/-- The times of a segment are what its fields were read as. -/
theorem readFields_eq_valid
    {fields : Fields}
    {entry : TimelineEntry}
    (isRead : readFields fields = .valid entry) :
    fields.withDefault "start" 0 readNonnegative = .valid entry.start ∧
      fields.optional "end" readNonnegative = .valid entry.stop := by
  obtain ⟨_, _, isRest, _, byStyle⟩ := Checked.seq_eq_valid isRead
  obtain ⟨_, _, isRest, _, byText⟩ := Checked.seq_eq_valid isRest
  obtain ⟨_, _, isRest, isStop, byStop⟩ := Checked.seq_eq_valid isRest
  obtain ⟨_, _, isRest, isStart, byStart⟩ := Checked.seq_eq_valid isRest
  obtain ⟨_, _, isRest, _, byUrl⟩ := Checked.seq_eq_valid isRest
  obtain ⟨_, _, byKind⟩ := Checked.map_eq_valid isRest
  subst byKind byUrl byStart byStop byText byStyle
  exact ⟨isStart, isStop⟩

/-- Nothing is lacking in a segment that is not refused. -/
theorem complete_of_not_refused
    {entry : TimelineEntry}
    (notRefused : entry.refusal? = none) :
    (entry.kind ≠ .subtitle → ∃ url, entry.url = some url) ∧
      (entry.kind = .video → ∃ stop, entry.stop = some stop) := by
  unfold refusal? at notRefused
  split at notRefused
  · cases notRefused
  · rename_i hasUrl
    split at notRefused
    · cases notRefused
    · rename_i hasStop
      constructor
      · intro isRemote
        cases url : entry.url with
        | none => exact absurd ⟨isRemote, by simp [url, nonempty?]⟩ hasUrl
        | some address => exact ⟨address, rfl⟩
      · intro isVideo
        cases stop : entry.stop with
        | none => exact absurd ⟨isVideo, by simp [stop]⟩ hasStop
        | some time => exact ⟨time, rfl⟩

theorem IsAccepted.isComplete
    {entry : TimelineEntry}
    (accepted : entry.IsAccepted) :
    entry.IsComplete := by
  obtain ⟨value, isRead⟩ := accepted
  obtain ⟨checked, isObject, isChecked⟩ := Checked.andThen_eq_valid isRead
  split at isChecked
  · cases isChecked
  · rename_i notRefused
    cases isChecked
    unfold readObject at isObject
    split at isObject
    · obtain ⟨hasAddress, ends⟩ := complete_of_not_refused notRefused
      obtain ⟨isStart, isStop⟩ := readFields_eq_valid isObject
      refine ⟨hasAddress, ends, ?_, ?_⟩
      · rcases Fields.withDefault_eq_valid isStart with
          isDefault | ⟨_, isStart⟩
        · rw [isDefault]
          decide +kernel
        · exact nonnegative_of_readNonnegative isStart
      · intro stop member
        rw [Option.mem_def.mp member] at isStop
        obtain ⟨_, isStop⟩ := Fields.optional_eq_valid isStop
        exact nonnegative_of_readNonnegative isStop
    · cases isObject

end TimelineEntry

end Montage
