import Montage.Proofs.Registry.Ownership

namespace Montage

/-!
# Values that are refused

To tell a status fails with a value error for one of three causes. A name that
no status has is refused before anything is written. A name that no field has is
refused where it stands among the fields: status, progress and the fields before
it are written by then, and stay. And a hook may fail while old records are
dropped, after the whole update.
-/

/-- To set a field to the value that it has changes nothing. -/
theorem setField_eq_self
    {α : Type}
    {name : String}
    {value : α}
    {fields : List (String × α)}
    (found : getField? name fields = some value) :
    setField name value fields = fields := by
  induction fields with
  | nil => cases found
  | cons field rest inductionHypothesis =>
      by_cases same : field.1 = name
      · simp only [getField?, same, ↓reduceIte, Option.some.injEq] at found
        subst found
        subst same
        simp [setField]
      · simp only [getField?, same, ↓reduceIte] at found
        simp only [setField, same, ↓reduceIte, inductionHypothesis found]

namespace Job

/-! ## Fields that a record has -/

/-- Whether a record has a field of a name. -/
def knowsField (name : String) : Bool :=
  name = "error" || name = "output_path" || resultNames.contains name

theorem setResult_of_knowsField
    {name : String}
    (known : knowsField name = true)
    (job : Job)
    (value : Json) :
    ∃ changed, job.setResult name value = .ok changed := by
  unfold setResult
  split
  · exact ⟨_, rfl⟩
  · split
    · exact ⟨_, rfl⟩
    · split
      · exact ⟨_, rfl⟩
      · simp_all [knowsField]

theorem setResult_of_not_knowsField
    {name : String}
    (unknown : knowsField name = false)
    (job : Job)
    (value : Json) :
    job.setResult name value = .error (.unknownField name) := by
  simp only [knowsField, Bool.or_eq_false_iff, decide_eq_false_iff_not]
    at unknown
  obtain ⟨⟨notError, notPath⟩, notResult⟩ := unknown
  rw [setResult, if_neg notError, if_neg notPath, if_neg]
  simpa using notResult

/-- Fields are set one after another, all of them or up to one that no record
has. -/
theorem setResults_cases
    (job : Job)
    (fields : Fields) :
    (∃ changed, job.setResults fields = (.ok (), changed)) ∨
    ∃ known name value rest changed,
      fields = known ++ (name, value) :: rest ∧
      knowsField name = false ∧
      job.setResults known = (.ok (), changed) := by
  induction fields generalizing job with
  | nil => exact Or.inl ⟨job, rfl⟩
  | cons field rest inductionHypothesis =>
      obtain ⟨name, value⟩ := field
      cases isKnown : knowsField name with
      | false =>
          exact Or.inr ⟨[], name, value, rest, job, rfl, isKnown, rfl⟩
      | true =>
          obtain ⟨next, isSet⟩ := setResult_of_knowsField isKnown job value
          have goesOn (others : Fields) :
              job.setResults ((name, value) :: others) =
                next.setResults others := by
            rw [setResults, isSet]
          rcases inductionHypothesis next with
            ⟨changed, isDone⟩ |
              ⟨known, unknown, refused, later, changed, rfl, isUnknown,
                before⟩
          · exact Or.inl ⟨changed, (goesOn rest).trans isDone⟩
          · exact Or.inr
              ⟨(name, value) :: known, unknown, refused, later, changed, rfl,
                isUnknown, (goesOn known).trans before⟩

theorem setResults_append
    {job changed : Job}
    {known : Fields}
    (isSet : job.setResults known = (.ok (), changed))
    (rest : Fields) :
    job.setResults (known ++ rest) = changed.setResults rest := by
  induction known generalizing job with
  | nil =>
      cases isSet
      rfl
  | cons field later inductionHypothesis =>
      obtain ⟨name, value⟩ := field
      rw [List.cons_append, setResults]
      rw [setResults] at isSet
      cases outcome : job.setResult name value with
      | error failure =>
          rw [outcome] at isSet
          cases isSet
      | ok next =>
          rw [outcome] at isSet
          exact inductionHypothesis isSet

/-- An update sets all of its fields, or stops at one that no record has. -/
theorem updated_cases
    {job : Job}
    {progress : Int}
    (whole : job.progress = .whole progress)
    (status : JobStatus)
    (told : Option Int)
    (fields : Fields) :
    (∃ changed,
      job.updated status (.ofInteger? told) fields = (.ok (), changed)) ∨
    ∃ known name value rest changed,
      fields = known ++ (name, value) :: rest ∧
      knowsField name = false ∧
      job.updated status (.ofInteger? told) known = (.ok (), changed) := by
  simp only [updated_eq whole]
  exact setResults_cases _ fields

/-- An update that tells an unknown field writes what stands before it. -/
theorem updated_of_unknown_field
    {job changed : Job}
    {status : JobStatus}
    {progress : Json}
    {known : Fields}
    (updated : job.updated status progress known = (.ok (), changed))
    {name : String}
    (unknown : knowsField name = false)
    (value : Json)
    (rest : Fields) :
    job.updated status progress (known ++ (name, value) :: rest) =
      (.error (.unknownField name), changed) := by
  unfold Job.updated at updated ⊢
  rcases shape : job.moveTo status progress with ⟨outcome, moved⟩
  rw [shape] at updated
  cases outcome with
  | error failure => cases updated
  | ok done =>
      have isSet : moved.setResults known = (.ok (), changed) := updated
      simp only [setResults_append isSet, setResults,
        setResult_of_not_knowsField unknown]

end Job

namespace Registry

/-! ## Why a told status is refused -/

/--
An update that is heeded stops at a field that no record has. The record is then
the one that the status, the progress and the fields before it make.
-/
inductive StopsAt
    (registry : Registry)
    (id statusName : String)
    (told : Option Int)
    (fields : Fields)
    (now : Binary64)
    (name : String) :
    Job → Prop
  | intro
      {status : JobStatus}
      {base changed : Job}
      {known rest : Fields}
      {value : Json}
      (heeds :
        registry.Heeds id statusName fields now status base
          (known ++ (name, value) :: rest))
      (unknown : Job.knowsField name = false)
      (updated :
        base.updated status (.ofInteger? told) known = (.ok (), changed)) :
      StopsAt registry id statusName told fields now name changed

/-- An update is written, and then the hook ends the sweep by a value error. -/
inductive StopsAfter
    (registry : Registry)
    (id statusName : String)
    (told : Option Int)
    (fields : Fields)
    (now later : Binary64)
    (hook : EvictionHook)
    (failure : Failure) :
    Job → Prop
  | intro
      {status : JobStatus}
      {base changed : Job}
      {used : Fields}
      (heeds : registry.Heeds id statusName fields now status base used)
      (updated :
        base.updated status (.ofInteger? told) used = (.ok (), changed))
      (ended :
        ((registry.put { changed with touched := now }).dropStale later
          hook).result = .error failure)
      (isValue : failure.failureClass = .value) :
      StopsAfter registry id statusName told fields now later hook failure
        { changed with touched := now }

/-- How a told status fails with a value error, and what it leaves. -/
inductive Refuses
    (registry : Registry)
    (id statusName : String)
    (told : Option Int)
    (fields : Fields)
    (now later : Binary64)
    (hook : EvictionHook) :
    Change Job → Prop
  | status
      (checked : checkFields fields = .ok ())
      (nameless : JobStatus.find? statusName = none) :
      Refuses registry id statusName told fields now later hook {
        result := .error (.unknownStatus statusName)
        evicted := []
        registry }
  | field
      {name : String}
      {changed : Job}
      (stops :
        registry.StopsAt id statusName told fields now name changed) :
      Refuses registry id statusName told fields now later hook {
        result := .error (.unknownField name)
        evicted := []
        registry := registry.put changed }
  | hook
      {failure : Failure}
      {written : Job}
      (stops :
        registry.StopsAfter id statusName told fields now later hook failure
          written) :
      Refuses registry id statusName told fields now later hook
        ((registry.put written).dropStaleFor written later hook)

theorem StopsAt.tell_eq
    {registry : Registry}
    {id statusName : String}
    {told : Option Int}
    {fields : Fields}
    {now : Binary64}
    {name : String}
    {changed : Job}
    (stops : registry.StopsAt id statusName told fields now name changed)
    (later : Binary64)
    (hook : EvictionHook) :
    registry.tell id statusName (.ofInteger? told) fields now later hook = {
      result := .error (.unknownField name)
      evicted := []
      registry := registry.put changed } := by
  cases stops with
  | intro heeds unknown updated =>
      rw [heeds.tell_eq, update,
        Job.updated_of_unknown_field updated unknown]

/-- A told status fails with a value error for these causes only. -/
theorem Steady.refuses_iff
    {registry : Registry}
    (steady : registry.Steady)
    (id statusName : String)
    (told : Option Int)
    (fields : Fields)
    (now later : Binary64)
    (hook : EvictionHook) :
    let change :=
      registry.tell id statusName (.ofInteger? told) fields now later hook
    (∃ failure,
      change.result = .error failure ∧ failure.failureClass = .value) ↔
      registry.Refuses id statusName told fields now later hook change := by
  have course :=
    tell_course registry id statusName (.ofInteger? told) fields now later hook
  generalize
    registry.tell id statusName (.ofInteger? told) fields now later hook =
      change at course ⊢
  constructor
  · rintro ⟨failure, failed, isValue⟩
    cases course with
    | repeated unchecked =>
        cases failed
        cases isValue
    | nameless checked unknown => exact .status checked unknown
    | ignored checked named found ignored => cases failed
    | @heeded status base used heeds =>
        obtain ⟨progress, whole, _⟩ := heeds.updates.base_sound steady
        rcases Job.updated_cases whole status told used with
          ⟨changed, updated⟩ |
            ⟨known, name, value, rest, changed, rfl, unknown, updated⟩
        · rw [update, updated] at failed ⊢
          cases ended :
              ((registry.put { changed with touched := now }).dropStale later
                hook).result with
          | ok done =>
              simp only [dropStaleFor, ended, Except.map] at failed
              cases failed
          | error raised =>
              simp only [dropStaleFor, ended, Except.map] at failed
              cases failed
              exact .hook (.intro heeds updated ended isValue)
        · rw [update, Job.updated_of_unknown_field updated unknown]
          exact .field (.intro heeds unknown updated)
  · intro refuses
    cases refuses with
    | status checked nameless => exact ⟨_, rfl, rfl⟩
    | field stops => exact ⟨_, rfl, rfl⟩
    | hook stops =>
        cases stops with
        | intro heeds updated ended isValue =>
            refine ⟨_, ?_, isValue⟩
            simp only [dropStaleFor, ended]
            rfl

/-! ## What a refused field leaves -/

/-- Whatever is told of a final record leaves the registry. -/
theorem tell_of_final
    {registry : Registry}
    {id : String}
    {job : Job}
    (found : registry.find? id = some job)
    (isFinal : job.status.isFinal = true)
    (statusName : String)
    (progress : Json)
    (fields : Fields)
    (now later : Binary64)
    (hook : EvictionHook) :
    (registry.tell id statusName progress fields now later hook).registry =
      registry := by
  have course :=
    tell_course registry id statusName progress fields now later hook
  generalize registry.tell id statusName progress fields now later hook =
    change at course ⊢
  cases course with
  | repeated unchecked => rfl
  | nameless checked unknown => rfl
  | ignored checked named found ignored => rfl
  | heeded heeds =>
      cases heeds.updates with
      | known foundThen heeded =>
          cases found.symm.trans foundThen
          simp [Job.ignores, isFinal] at heeded
      | unknown absent =>
          rw [found] at absent
          cases absent

/-- A status that has no name is refused before anything is written. -/
theorem tell_of_nameless
    {registry : Registry}
    {statusName : String}
    {fields : Fields}
    (checked : checkFields fields = .ok ())
    (nameless : JobStatus.find? statusName = none)
    (id : String)
    (progress : Json)
    (now later : Binary64)
    (hook : EvictionHook) :
    registry.tell id statusName progress fields now later hook = {
      result := .error (.unknownStatus statusName)
      evicted := []
      registry } := by
  have refused :
      (checkFields fields *> checkStatus statusName) =
        .error (.unknownStatus statusName) := by
    rw [checked, checkStatus, nameless]
    rfl
  simp only [tell, refused]

/-- What an update leaves that stops at an unknown field. -/
structure HalfApplied
    (before after : Registry)
    (id statusName : String)
    (changed : Job) :
    Prop where
  /-- The record has the new status. -/
  status : JobStatus.find? statusName = some changed.status
  /-- The record is tracked, even if none was. -/
  tracked : after.find? id = some changed
  others : ∀ other, other ≠ id → after.find? other = before.find? other
  holders : SameHolders before after
  /-- Only if this very record was there is nothing changed. -/
  unchanged : after = before ↔ before.find? id = some changed
  /-- A final status stays, whatever is told from then on. -/
  frozen :
    changed.status.isFinal = true →
      ∀ statusName progress fields now later hook,
        (after.tell id statusName progress fields now later hook).registry =
          after

theorem StopsAt.halfApplied
    {registry : Registry}
    (steady : registry.Steady)
    {id statusName : String}
    {told : Option Int}
    {fields : Fields}
    {now : Binary64}
    {name : String}
    {changed : Job}
    (stops : registry.StopsAt id statusName told fields now name changed) :
    registry.HalfApplied (registry.put changed) id statusName changed := by
  cases stops with
  | @intro status base _ known rest value heeds unknown updated =>
      obtain ⟨progress, whole, _⟩ := heeds.updates.base_sound steady
      have moved := Job.updated_moved whole status told known
      rw [updated] at moved
      have sameId : changed.id = id :=
        moved.id.trans (heeds.updates.id_eq steady.wellKeyed)
      have tracked : (registry.put changed).find? id = some changed := by
        rw [← sameId]
        exact find?_put_self registry changed
      refine {
        status := moved.status ▸ heeds.named
        tracked
        others := ?_
        holders := ⟨rfl, rfl, rfl⟩
        unchanged := ?_
        frozen := ?_ }
      · intro other different
        exact find?_put_of_ne registry changed (sameId ▸ different)
      · constructor
        · intro same
          rw [← same]
          exact tracked
        · intro found
          have kept : setField changed.id changed registry.jobs =
              registry.jobs :=
            setField_eq_self (sameId ▸ found)
          simp only [put, kept]
      · intro isFinal
        exact tell_of_final tracked isFinal

/--
From every registry that calls have led to, a told status fails with a value
error exactly if its name is unknown, if one of its fields is, or if the hook
does at the end. An unknown status leaves the registry as it was. An unknown
field leaves the record of the id with the new status, its progress and the
fields before the unknown one, so the registry is as it was only if this very
record was there already; and a final status stays for good.
-/
theorem unknown_fields_leave_half_an_update
    (pastHook : EvictionHook)
    (limit highWater : Int)
    (lifetime : Binary64)
    (calls : List RegistryCall) :
    let before := (opened limit highWater lifetime).play pastHook calls
    ∀ id statusName told fields now later hook,
      let change :=
        before.tell id statusName (.ofInteger? told) fields now later hook
      ((∃ failure,
        change.result = .error failure ∧ failure.failureClass = .value) ↔
        before.Refuses id statusName told fields now later hook change) ∧
      (checkFields fields = .ok () →
        JobStatus.find? statusName = none →
        change = {
          result := .error (.unknownStatus statusName)
          evicted := []
          registry := before }) ∧
      ∀ name changed,
        before.StopsAt id statusName told fields now name changed →
        change.result = .error (.unknownField name) ∧
          change.evicted = [] ∧
          before.HalfApplied change.registry id statusName changed := by
  intro before id statusName told fields now later hook change
  have steady : before.Steady :=
    (opened_steady limit highWater lifetime).play pastHook calls
  refine ⟨steady.refuses_iff id statusName told fields now later hook, ?_, ?_⟩
  · exact fun checked nameless => tell_of_nameless checked nameless ..
  · intro name changed stops
    have shape : change = _ := stops.tell_eq later hook
    rw [shape]
    exact ⟨rfl, rfl, stops.halfApplied steady⟩

/-- A result is told with a field that no record has: the job is done all the
same, and an error that is told later is ignored. -/
theorem unknown_field_ends_job :
    let before := (opened 5 100 3600).play (fun _ => none) [
      .enroll "a" .null 0 0]
    let change :=
      before.tell "a" "done" (.ofInteger? none) [
        ("metadata", .text "short"),
        ("colour", .text "red")] 1 1 (fun _ => none)
    ∃ changed,
      before.StopsAt "a" "done" none [
        ("metadata", .text "short"),
        ("colour", .text "red")] 1 "colour" changed ∧
      change.result = .error (.unknownField "colour") ∧
      change.registry.find? "a" = some changed ∧
      changed.status = .done ∧
      change.registry ≠ before ∧
      (change.registry.tell "a" "error" .null [("error", .text "late")] 2 2
        (fun _ => none)).registry = change.registry := by
  intro before change
  obtain ⟨queued, found, isQueued⟩ :
      ∃ queued,
        before.find? "a" = some queued ∧ queued.status = .queued :=
    ⟨_, rfl, rfl⟩
  have heeded : queued.ignores .done = false := by
    rw [Job.ignores, isQueued]
    rfl
  have heeds :
      before.Heeds "a" "done" [
        ("metadata", .text "short"),
        ("colour", .text "red")] 1 .done queued
        ([("metadata", .text "short")] ++ ("colour", .text "red") :: []) :=
    ⟨rfl, rfl, .known found heeded⟩
  obtain ⟨changed, updated⟩ :
      ∃ changed,
        queued.updated .done (.ofInteger? none)
          [("metadata", .text "short")] = (.ok (), changed) :=
    ⟨_, rfl⟩
  have stops :
      before.StopsAt "a" "done" none [
        ("metadata", .text "short"),
        ("colour", .text "red")] 1 "colour" changed :=
    .intro heeds rfl updated
  obtain ⟨failed, _, half⟩ :=
    (unknown_fields_leave_half_an_update (fun _ => none) 5 100 3600
      [.enroll "a" .null 0 0] "a" "done" none _ 1 1 (fun _ => none)).2.2
      _ _ stops
  have isDone : changed.status = .done :=
    (Option.some.inj half.status).symm
  refine ⟨changed, stops, failed, half.tracked, isDone, ?_, ?_⟩
  · intro same
    have foundDone := half.unchanged.mp same
    rw [found] at foundDone
    cases foundDone
    rw [isQueued] at isDone
    cases isDone
  · exact half.frozen (by rw [isDone]; rfl) _ _ _ _ _ _

end Registry

end Montage
