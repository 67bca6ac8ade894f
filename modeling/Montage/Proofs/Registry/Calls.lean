import Montage.Proofs.Registry.Records

namespace Montage

/-!
# Calls to the registry

Everything that can be asked of a registry, one call after another. The clock
is read anew at every reading, so each call tells what it showed. What one call
can do is said once: it leaves the registry as it is, or it writes one record
and drops stale ones.
-/

/-- What is asked of a registry, with the readings of the clock. -/
inductive RegistryCall
  | enroll (id : String) (project : Json) (now later : Binary64)
  | tell
      (id statusName : String)
      (progress : Option Int)
      (fields : Fields)
      (now later : Binary64)
  | release (id : String)
  | startTask (id : String)
  | finish (id : String)
  | sweep (now : Binary64)

namespace RegistryCall

/-- The id that a call is about; a sweep is about none. -/
def id? : RegistryCall → Option String
  | enroll id .. => some id
  | tell id .. => some id
  | release id => some id
  | startTask id => some id
  | finish id => some id
  | sweep _ => none

/-- The registry after a call. -/
def run
    (hook : EvictionHook)
    (registry : Registry) :
    RegistryCall → Registry
  | enroll id project now later =>
      (registry.enroll id project now later hook).registry
  | tell id statusName progress fields now later =>
      (registry.tell id statusName (.ofInteger? progress) fields now later
        hook).registry
  | release id => registry.release id
  | startTask id => registry.startTask id
  | finish id => registry.finish id
  | sweep now => (registry.dropStale now hook).registry

end RegistryCall

namespace Job

/-! ## Updates of a record -/

/-- A record differs from another in its results at most. -/
structure SameStanding (before after : Job) : Prop where
  id : after.id = before.id
  project : after.project = before.project
  status : after.status = before.status
  progress : after.progress = before.progress
  touched : after.touched = before.touched

theorem setResult_sameStanding
    {job changed : Job}
    {name : String}
    {value : Json}
    (set : job.setResult name value = .ok changed) :
    SameStanding job changed := by
  unfold setResult at set
  split at set
  · cases set
    exact ⟨rfl, rfl, rfl, rfl, rfl⟩
  · split at set
    · cases set
      exact ⟨rfl, rfl, rfl, rfl, rfl⟩
    · split at set
      · cases set
        exact ⟨rfl, rfl, rfl, rfl, rfl⟩
      · cases set

/-- Results, as far as they are set, leave the standing of a record. -/
theorem setResults_sameStanding
    (job : Job)
    (fields : Fields) :
    SameStanding job (job.setResults fields).2 := by
  induction fields generalizing job with
  | nil => exact ⟨rfl, rfl, rfl, rfl, rfl⟩
  | cons field rest inductionHypothesis =>
      simp only [setResults]
      split
      · rename_i changed set
        have first := setResult_sameStanding set
        have later := inductionHypothesis changed
        exact ⟨later.id.trans first.id, later.project.trans first.project,
          later.status.trans first.status,
          later.progress.trans first.progress,
          later.touched.trans first.touched⟩
      · exact ⟨rfl, rfl, rfl, rfl, rfl⟩

theorem moveTo_id
    (job : Job)
    (status : JobStatus)
    (progress : Json) :
    (job.moveTo status progress).2.id = job.id := by
  unfold moveTo
  cases job.progressAfter status progress <;> rfl

/-- An update leaves the id of a record. -/
theorem updated_id
    (job : Job)
    (status : JobStatus)
    (progress : Json)
    (fields : Fields) :
    (job.updated status progress fields).2.id = job.id := by
  have moved := moveTo_id job status progress
  unfold updated
  rcases shape : job.moveTo status progress with ⟨outcome, changed⟩
  rw [shape] at moved
  cases outcome with
  | error failure => exact moved
  | ok done => exact (setResults_sameStanding changed fields).id.trans moved

end Job

namespace Registry

/-- The registry after calls, the first first. -/
def play
    (hook : EvictionHook)
    (registry : Registry)
    (calls : List RegistryCall) :
    Registry :=
  calls.foldl (RegistryCall.run hook) registry

/-- A registry with limits in which nothing has happened. -/
def opened
    (limit highWater : Int)
    (lifetime : Binary64) :
    Registry where
  limit := limit
  highWater := highWater
  lifetime := lifetime

theorem opened_wellKeyed
    (limit highWater : Int)
    (lifetime : Binary64) :
    (opened limit highWater lifetime).WellKeyed where
  idsNodup := List.nodup_nil
  keyed := by
    intro entry member
    cases member

/-! ## Taking a job in -/

/-- The record of a job that was just taken in. -/
def fresh
    (id : String)
    (project : Json)
    (now : Binary64) :
    Job where
  id := id
  project := project
  touched := now

/-- A registry with one more slot and the record of the job that holds it. -/
def entered
    (registry : Registry)
    (id : String)
    (project : Json)
    (now : Binary64) :
    Registry :=
  { registry.put (fresh id project now) with
    slots := registry.slots ++ [id] }

/-- Whether a job would be taken in: its id is free, and a slot is. -/
def admits
    (registry : Registry)
    (id : String) :
    Bool :=
  !registry.isInUse id && decide (registry.slots.length < registry.limit)

/-- A job is either refused, which changes nothing, or entered and swept for. -/
theorem enroll_cases
    (registry : Registry)
    (id : String)
    (project : Json)
    (now later : Binary64)
    (hook : EvictionHook) :
    (registry.admits id = false ∧
      ∃ error,
        registry.enroll id project now later hook =
          { result := .error (.server error), evicted := [], registry }) ∨
    (registry.admits id = true ∧
      registry.enroll id project now later hook =
        (registry.entered id project now).dropStaleFor
          (fresh id project now) later hook) := by
  unfold enroll
  by_cases inUse : registry.isInUse id = true
  · left
    exact ⟨by simp [admits, inUse], .jobInProgress (some id), if_pos inUse⟩
  · rw [if_neg inUse]
    by_cases full : registry.limit ≤ registry.slots.length
    · left
      exact ⟨by simp [admits, full],
        .busy registry.slots.length registry.limit, if_pos full⟩
    · right
      refine ⟨?_, ?_⟩
      · simp only [admits, Bool.and_eq_true, Bool.not_eq_true',
          decide_eq_true_eq]
        exact ⟨by simpa using inUse, by omega⟩
      · rw [if_neg full]
        rfl

/-- A job that was taken in could be taken in. -/
theorem admits_of_enroll
    {registry : Registry}
    {id : String}
    {project : Json}
    {now later : Binary64}
    {hook : EvictionHook}
    {job : Job}
    (taken : (registry.enroll id project now later hook).result = .ok job) :
    registry.admits id = true := by
  rcases enroll_cases registry id project now later hook with
    ⟨_, error, refused⟩ | ⟨admitted, _⟩
  · rw [refused] at taken
    cases taken
  · exact admitted

/-- An id is in use as soon as it holds a slot. -/
theorem not_holdsSlot_of_admits
    {registry : Registry}
    {id : String}
    (admitted : registry.admits id = true) :
    id ∉ registry.slots := by
  intro member
  simp [admits, isInUse, holdsSlot, member] at admitted

theorem slots_lt_of_admits
    {registry : Registry}
    {id : String}
    (admitted : registry.admits id = true) :
    (registry.slots.length : Int) < registry.limit := by
  simp only [admits, Bool.and_eq_true, decide_eq_true_eq] at admitted
  exact admitted.2

theorem entered_holdsSlot
    (registry : Registry)
    (id : String)
    (project : Json)
    (now : Binary64) :
    (registry.entered id project now).holdsSlot id = true := by
  simp [holdsSlot, entered]

theorem find?_entered_self
    (registry : Registry)
    (id : String)
    (project : Json)
    (now : Binary64) :
    (registry.entered id project now).find? id =
      some (fresh id project now) :=
  find?_put_self registry (fresh id project now)

theorem find?_entered_of_ne
    (registry : Registry)
    {id other : String}
    (different : other ≠ id)
    (project : Json)
    (now : Binary64) :
    (registry.entered id project now).find? other = registry.find? other :=
  find?_put_of_ne registry (fresh id project now) different

theorem WellKeyed.entered
    {registry : Registry}
    (wellKeyed : registry.WellKeyed)
    (id : String)
    (project : Json)
    (now : Binary64) :
    (registry.entered id project now).WellKeyed where
  idsNodup := (wellKeyed.put (fresh id project now)).idsNodup
  keyed := (wellKeyed.put (fresh id project now)).keyed

/-! ## Telling the status of a job -/

/--
What an update starts from: a record that does not ignore it, or a new record if
the job is not known; then the project is told among the fields.
-/
inductive Updates
    (registry : Registry)
    (id : String)
    (status : JobStatus)
    (fields : Fields)
    (now : Binary64) :
    Job → Fields → Prop
  | known
      {job : Job}
      (found : registry.find? id = some job)
      (heeded : job.ignores status = false) :
      Updates registry id status fields now job fields
  | unknown
      (absent : registry.find? id = none) :
      Updates registry id status fields now
        (fresh id ((getField? "project_id" fields).getD .null) now)
        (fields.filter fun field => field.1 ≠ "project_id")

/-- An update writes the record of the id that it is told for. -/
theorem Updates.id_eq
    {registry : Registry}
    (wellKeyed : registry.WellKeyed)
    {id : String}
    {status : JobStatus}
    {fields used : Fields}
    {now : Binary64}
    {job : Job}
    (updates : registry.Updates id status fields now job used) :
    job.id = id := by
  cases updates with
  | known found heeded => exact wellKeyed.id_of_find? found
  | unknown absent => rfl

/-- An update writes its record, as far as it comes, and drops stale ones. -/
theorem update_swept
    (registry : Registry)
    (job : Job)
    (status : JobStatus)
    (progress : Json)
    (fields : Fields)
    (now later : Binary64)
    (hook : EvictionHook) :
    ∃ touched,
      SweptChange
        (registry.put
          { (job.updated status progress fields).2 with touched })
        (registry.update job status progress fields now later hook) := by
  unfold update
  rcases shape : job.updated status progress fields with ⟨outcome, changed⟩
  cases outcome with
  | error failure =>
      exact ⟨changed.touched, .refl _, by simp [DropsIdle]⟩
  | ok done => exact ⟨now, dropStaleFor_sweptChange _ _ later hook⟩

/-- A status is told with known parts, and a record heeds it. -/
structure Heeds
    (registry : Registry)
    (id statusName : String)
    (fields : Fields)
    (now : Binary64)
    (status : JobStatus)
    (base : Job)
    (used : Fields) :
    Prop where
  checked : checkFields fields = .ok ()
  named : JobStatus.find? statusName = some status
  updates : registry.Updates id status fields now base used

/-- A status that a record heeds updates this record. -/
theorem Heeds.tell_eq
    {registry : Registry}
    {id statusName : String}
    {fields used : Fields}
    {now : Binary64}
    {status : JobStatus}
    {base : Job}
    (heeds : registry.Heeds id statusName fields now status base used)
    (progress : Json)
    (later : Binary64)
    (hook : EvictionHook) :
    registry.tell id statusName progress fields now later hook =
      registry.update base status progress used now later hook := by
  have passed :
      (checkFields fields *> checkStatus statusName) = .ok status := by
    rw [heeds.checked, checkStatus, heeds.named]
    rfl
  cases heeds.updates with
  | known found heeded => simp [tell, passed, found, heeded]
  | unknown absent => simp [tell, passed, absent, fresh]

/-- A status that a record ignores changes nothing. -/
theorem tell_of_ignored
    {registry : Registry}
    {id statusName : String}
    {job : Job}
    {status : JobStatus}
    {fields : Fields}
    (found : registry.find? id = some job)
    (checked : checkFields fields = .ok ())
    (named : JobStatus.find? statusName = some status)
    (ignored : job.ignores status = true)
    (progress : Json)
    (now later : Binary64)
    (hook : EvictionHook) :
    registry.tell id statusName progress fields now later hook =
      { result := .ok job, evicted := [], registry } := by
  have passed :
      (checkFields fields *> checkStatus statusName) = .ok status := by
    rw [checked, checkStatus, named]
    rfl
  simp [tell, passed, found, ignored]

/-- Everything that can come of a status that is told. -/
inductive TellCourse
    (registry : Registry)
    (id statusName : String)
    (progress : Json)
    (fields : Fields)
    (now later : Binary64)
    (hook : EvictionHook) :
    Change Job → Prop
  | repeated
      {name : String}
      (unchecked :
        checkFields fields =
          .error (.argument (.repeated "JobController.set_status" name))) :
      TellCourse registry id statusName progress fields now later hook {
        result :=
          .error (.argument (.repeated "JobController.set_status" name))
        evicted := []
        registry }
  | nameless
      (checked : checkFields fields = .ok ())
      (unknown : JobStatus.find? statusName = none) :
      TellCourse registry id statusName progress fields now later hook {
        result := .error (.unknownStatus statusName)
        evicted := []
        registry }
  | ignored
      {status : JobStatus}
      {job : Job}
      (checked : checkFields fields = .ok ())
      (named : JobStatus.find? statusName = some status)
      (found : registry.find? id = some job)
      (ignored : job.ignores status = true) :
      TellCourse registry id statusName progress fields now later hook {
        result := .ok job
        evicted := []
        registry }
  | heeded
      {status : JobStatus}
      {base : Job}
      {used : Fields}
      (heeds : registry.Heeds id statusName fields now status base used) :
      TellCourse registry id statusName progress fields now later hook
        (registry.update base status progress used now later hook)

theorem tell_course
    (registry : Registry)
    (id statusName : String)
    (progress : Json)
    (fields : Fields)
    (now later : Binary64)
    (hook : EvictionHook) :
    TellCourse registry id statusName progress fields now later hook
      (registry.tell id statusName progress fields now later hook) := by
  cases passed : checkFields fields with
  | error failure =>
      have refused :
          registry.tell id statusName progress fields now later hook =
            { result := .error failure, evicted := [], registry } := by
        simp [tell, passed, SeqRight.seqRight, Except.bind]
      rw [refused]
      cases found : (fields.map Prod.fst).find? partNames.contains with
      | none =>
          rw [checkFields, found] at passed
          cases passed
      | some name =>
          have isRepeated :
              failure =
                .argument (.repeated "JobController.set_status" name) := by
            rw [checkFields, found] at passed
            exact (Except.error.inj passed).symm
          subst isRepeated
          exact .repeated passed
  | ok done =>
      cases named : JobStatus.find? statusName with
      | none =>
          have refused :
              registry.tell id statusName progress fields now later hook = {
                result := .error (.unknownStatus statusName)
                evicted := []
                registry } := by
            simp [tell, passed, SeqRight.seqRight, Except.bind, checkStatus,
              named]
          rw [refused]
          exact .nameless passed named
      | some status =>
          cases found : registry.find? id with
          | none =>
              have heeds :
                  registry.Heeds id statusName fields now status _ _ :=
                ⟨passed, named, .unknown found⟩
              rw [heeds.tell_eq]
              exact .heeded heeds
          | some job =>
              by_cases ignored : job.ignores status = true
              · rw [tell_of_ignored found passed named ignored]
                exact .ignored passed named found ignored
              · have heeds :
                    registry.Heeds id statusName fields now status job
                      fields :=
                  ⟨passed, named, .known found (by simpa using ignored)⟩
                rw [heeds.tell_eq]
                exact .heeded heeds

/-- A status that is told changes nothing, or updates one record. -/
theorem tell_cases
    (registry : Registry)
    (id statusName : String)
    (progress : Json)
    (fields : Fields)
    (now later : Binary64)
    (hook : EvictionHook) :
    (∃ result,
      registry.tell id statusName progress fields now later hook =
        { result, evicted := [], registry }) ∨
    ∃ status job used,
      JobStatus.find? statusName = some status ∧
      Updates registry id status fields now job used ∧
      registry.tell id statusName progress fields now later hook =
        registry.update job status progress used now later hook := by
  have course :=
    tell_course registry id statusName progress fields now later hook
  generalize registry.tell id statusName progress fields now later hook =
    change at course ⊢
  cases course with
  | repeated unchecked => exact Or.inl ⟨_, rfl⟩
  | nameless checked unknown => exact Or.inl ⟨_, rfl⟩
  | ignored checked named found ignored => exact Or.inl ⟨_, rfl⟩
  | heeded heeds =>
      exact Or.inr ⟨_, _, _, heeds.named, heeds.updates, rfl⟩

/-! ## What calls leave of slots and tasks -/

/-- Two registries have the same limit, slots and tasks. -/
structure SameHolders (before after : Registry) : Prop where
  limit : after.limit = before.limit
  slots : after.slots = before.slots
  tasks : after.tasks = before.tasks

theorem Swept.sameHolders
    {before after : Registry}
    (swept : Swept before after) :
    SameHolders before after where
  limit := swept.limit
  slots := swept.slots
  tasks := swept.tasks

/-- Telling a status moves no slot. -/
theorem tell_sameHolders
    (registry : Registry)
    (id statusName : String)
    (progress : Json)
    (fields : Fields)
    (now later : Binary64)
    (hook : EvictionHook) :
    SameHolders registry
      (registry.tell id statusName progress fields now later
        hook).registry := by
  rcases tell_cases registry id statusName progress fields now later hook with
    ⟨_, unchanged⟩ | ⟨status, job, used, _, _, shape⟩
  · rw [unchanged]
    exact ⟨rfl, rfl, rfl⟩
  · obtain ⟨touched, swept⟩ :=
      update_swept registry job status progress used now later hook
    rw [shape]
    exact ⟨swept.limit, swept.slots, swept.tasks⟩

/-! ## What calls drop -/

/-- To take a job in drops idle records at most. -/
theorem enroll_dropsIdle
    {registry : Registry}
    (wellKeyed : registry.WellKeyed)
    (id : String)
    (project : Json)
    (now later : Binary64)
    (hook : EvictionHook) :
    registry.DropsIdle (registry.enroll id project now later hook) := by
  rcases enroll_cases registry id project now later hook with
    ⟨_, error, refused⟩ | ⟨_, taken⟩
  · rw [refused]
    simp [DropsIdle]
  · rw [taken]
    intro job member
    obtain ⟨found, noSlot, gone⟩ :=
      (dropStaleFor_sweptChange (fresh id project now)
        (registry.entered id project now) later hook).dropsIdle
        (wellKeyed.entered id project now) job member
    have other : job.id ∉ registry.slots ∧ job.id ≠ id := by
      simpa [holdsSlot, entered] using noSlot
    rw [find?_entered_of_ne registry other.2] at found
    exact ⟨found, by simpa [holdsSlot] using other.1, gone⟩

/-- To tell of a job that holds a slot drops idle records at most. -/
theorem tell_dropsIdle
    {registry : Registry}
    (wellKeyed : registry.WellKeyed)
    {id : String}
    (holds : registry.holdsSlot id = true)
    (statusName : String)
    (progress : Json)
    (fields : Fields)
    (now later : Binary64)
    (hook : EvictionHook) :
    registry.DropsIdle
      (registry.tell id statusName progress fields now later hook) := by
  rcases tell_cases registry id statusName progress fields now later hook with
    ⟨_, unchanged⟩ | ⟨status, base, used, _, updates, shape⟩
  · rw [unchanged]
    simp [DropsIdle]
  · obtain ⟨touched, swept⟩ :=
      update_swept registry base status progress used now later hook
    have written : (base.updated status progress used).2.id = id :=
      (Job.updated_id base status progress used).trans
        (updates.id_eq wellKeyed)
    rw [shape]
    intro job member
    obtain ⟨found, noSlot, gone⟩ :=
      swept.dropsIdle (wellKeyed.put _) job member
    have noSlotBefore : registry.holdsSlot job.id = false := noSlot
    have other : job.id ≠ (base.updated status progress used).2.id := by
      intro same
      rw [same, written, holds] at noSlotBefore
      cases noSlotBefore
    have kept :=
      find?_put_of_ne registry
        { (base.updated status progress used).2 with touched } other
    exact ⟨kept.symm.trans found, noSlotBefore, gone⟩

/-- A record that was tracked is tracked when another one is put. -/
theorem isSome_find?_put
    {registry : Registry}
    {id : String}
    (found : (registry.find? id).isSome)
    (job : Job) :
    ((registry.put job).find? id).isSome := by
  by_cases same : id = job.id
  · subst same
    rw [find?_put_self]
    rfl
  · rw [find?_put_of_ne registry job same]
    exact found

/-- To take a job in tells what it drops. -/
theorem enroll_tellsDropped
    (registry : Registry)
    (id : String)
    (project : Json)
    (now later : Binary64)
    (hook : EvictionHook) :
    registry.TellsDropped (registry.enroll id project now later hook) := by
  intro other found gone
  rcases enroll_cases registry id project now later hook with
    ⟨_, error, refused⟩ | ⟨_, taken⟩
  · rw [refused] at gone
    rw [show registry.find? other = none from gone] at found
    cases found
  · rw [taken] at gone ⊢
    exact dropStaleFor_tellsDropped _ _ later hook other
      (isSome_find?_put found (fresh id project now)) gone

/-- To tell a status tells what it drops. -/
theorem tell_tellsDropped
    (registry : Registry)
    (id statusName : String)
    (progress : Json)
    (fields : Fields)
    (now later : Binary64)
    (hook : EvictionHook) :
    registry.TellsDropped
      (registry.tell id statusName progress fields now later hook) := by
  intro other found gone
  rcases tell_cases registry id statusName progress fields now later hook with
    ⟨_, unchanged⟩ | ⟨status, base, used, _, _, shape⟩
  · rw [unchanged] at gone
    rw [show registry.find? other = none from gone] at found
    cases found
  · rw [shape] at gone ⊢
    unfold update at gone ⊢
    rcases updated : base.updated status progress used with ⟨outcome, changed⟩
    rw [updated] at gone
    cases outcome with
    | error failure =>
        have kept := isSome_find?_put found changed
        rw [show (registry.put changed).find? other = none from gone] at kept
        cases kept
    | ok done =>
        exact dropStaleFor_tellsDropped _ _ later hook other
          (isSome_find?_put found _) gone

/-! ## What one call does to a record -/

/-- A call takes a job in, so that its record replaces an older one. -/
def Replaces
    (registry : Registry)
    (call : RegistryCall)
    (id : String) :
    Prop :=
  (∃ project now later, call = .enroll id project now later) ∧
    registry.admits id = true

/-- Where a record that is found after a call comes from. -/
inductive Origin
    (registry : Registry)
    (call : RegistryCall)
    (id : String) :
    Job → Prop
  | kept
      {job : Job}
      (found : registry.find? id = some job) :
      Origin registry call id job
  | entered
      {project : Json}
      {now : Binary64}
      (replaces : registry.Replaces call id) :
      Origin registry call id (fresh id project now)
  | updated
      {statusName : String}
      {status : JobStatus}
      {told : Option Int}
      {fields used : Fields}
      {now later touched : Binary64}
      {job : Job}
      (isTell : call = .tell id statusName told fields now later)
      (named : JobStatus.find? statusName = some status)
      (updates : registry.Updates id status fields now job used) :
      Origin registry call id
        { (job.updated status (.ofInteger? told) used).2 with touched }

/-- An update sets fields that were told. -/
theorem Updates.mem_fields
    {registry : Registry}
    {id : String}
    {status : JobStatus}
    {fields used : Fields}
    {now : Binary64}
    {job : Job}
    (updates : registry.Updates id status fields now job used)
    {field : String × Json}
    (member : field ∈ used) :
    field ∈ fields := by
  cases updates with
  | known found heeded => exact member
  | unknown absent => exact (List.mem_filter.mp member).1

/-- A record after a call is an old one, a fresh one, or an updated one. -/
theorem run_origin
    {registry : Registry}
    (wellKeyed : registry.WellKeyed)
    {hook : EvictionHook}
    {call : RegistryCall}
    {id : String}
    {job : Job}
    (found : (call.run hook registry).find? id = some job) :
    registry.Origin call id job := by
  cases call with
  | enroll asked project now later =>
      rcases enroll_cases registry asked project now later hook with
        ⟨_, error, refused⟩ | ⟨admitted, taken⟩
      · simp only [RegistryCall.run, refused] at found
        exact .kept found
      · have entered :
            (registry.entered asked project now).find? id = some job := by
          simp only [RegistryCall.run, taken, dropStaleFor] at found
          exact (dropStale_swept _ later hook).find?_of_find? found
        by_cases same : id = asked
        · subst same
          rw [find?_entered_self, Option.some.injEq] at entered
          subst entered
          exact .entered ⟨⟨project, now, later, rfl⟩, admitted⟩
        · rw [find?_entered_of_ne registry same] at entered
          exact .kept entered
  | tell asked statusName progress fields now later =>
      rcases tell_cases registry asked statusName (.ofInteger? progress) fields
          now later hook with
        ⟨_, unchanged⟩ | ⟨status, base, used, named, updates, shape⟩
      · simp only [RegistryCall.run, unchanged] at found
        exact .kept found
      · obtain ⟨touched, swept⟩ :=
          update_swept registry base status (.ofInteger? progress) used
            now later hook
        simp only [RegistryCall.run, shape] at found
        have written := swept.find?_of_find? found
        have idEq :
            (base.updated status (.ofInteger? progress) used).2.id = asked :=
          (Job.updated_id base status _ used).trans (updates.id_eq wellKeyed)
        by_cases same : id = asked
        · subst same
          have self := find?_put_self registry
            { (base.updated status (.ofInteger? progress) used).2 with touched }
          rw [idEq] at self
          rw [self, Option.some.injEq] at written
          subst written
          exact .updated rfl named updates
        · rw [find?_put_of_ne registry _ (idEq ▸ same)] at written
          exact .kept written
  | release asked => exact .kept found
  | startTask asked => exact .kept found
  | finish asked => exact .kept found
  | sweep now =>
      exact .kept ((dropStale_swept registry now hook).find?_of_find? found)

/-- A call about one id drops the record of another at most. -/
theorem find?_run_of_ne
    {registry : Registry}
    (wellKeyed : registry.WellKeyed)
    (hook : EvictionHook)
    {call : RegistryCall}
    {id : String}
    (elsewhere : call.id? ≠ some id) :
    (call.run hook registry).find? id = registry.find? id ∨
      (call.run hook registry).find? id = none := by
  cases found : (call.run hook registry).find? id with
  | none => exact Or.inr rfl
  | some job =>
      left
      cases run_origin wellKeyed found with
      | kept before => exact before.symm
      | entered replaces =>
          obtain ⟨⟨project, now, later, isEnroll⟩, _⟩ := replaces
          exact (elsewhere (isEnroll ▸ rfl)).elim
      | updated isTell named updates => exact (elsewhere (isTell ▸ rfl)).elim

/-- A job that holds a slot keeps a record through every call. -/
theorem isSome_find?_run
    {registry : Registry}
    (hook : EvictionHook)
    (call : RegistryCall)
    {id : String}
    (holds : registry.holdsSlot id = true)
    (tracked : (registry.find? id).isSome) :
    ((call.run hook registry).find? id).isSome := by
  cases call with
  | enroll asked project now later =>
      rcases enroll_cases registry asked project now later hook with
        ⟨_, error, refused⟩ | ⟨_, taken⟩
      · simpa only [RegistryCall.run, refused] using tracked
      · have still :
            (registry.entered asked project now).holdsSlot id = true := by
          simp only [holdsSlot, List.contains_iff_mem] at holds
          simp [holdsSlot, entered, holds]
        simp only [RegistryCall.run, taken, dropStaleFor]
        rw [(dropStale_swept _ later hook).held id still]
        by_cases same : id = asked
        · subst same
          rw [find?_entered_self]
          rfl
        · rwa [find?_entered_of_ne registry same]
  | tell asked statusName progress fields now later =>
      rcases tell_cases registry asked statusName (.ofInteger? progress) fields
          now later hook with
        ⟨_, unchanged⟩ | ⟨status, base, used, _, _, shape⟩
      · simpa only [RegistryCall.run, unchanged] using tracked
      · obtain ⟨touched, swept⟩ :=
          update_swept registry base status (.ofInteger? progress) used
            now later hook
        simp only [RegistryCall.run, shape]
        rw [swept.held id holds]
        by_cases same :
            id = (base.updated status (.ofInteger? progress) used).2.id
        · subst same
          exact Option.isSome_of_eq_some (find?_put_self registry _)
        · have kept :=
            find?_put_of_ne registry
              { (base.updated status (.ofInteger? progress) used).2 with
                touched }
              same
          rw [kept]
          exact tracked
  | release asked => exact tracked
  | startTask asked => exact tracked
  | finish asked => exact tracked
  | sweep now =>
      simp only [RegistryCall.run]
      rwa [(dropStale_swept registry now hook).held id holds]

theorem WellKeyed.run
    {registry : Registry}
    (wellKeyed : registry.WellKeyed)
    (hook : EvictionHook)
    (call : RegistryCall) :
    (call.run hook registry).WellKeyed := by
  cases call with
  | enroll id project now later =>
      rcases enroll_cases registry id project now later hook with
        ⟨_, error, refused⟩ | ⟨_, taken⟩
      · simpa only [RegistryCall.run, refused] using wellKeyed
      · simp only [RegistryCall.run, taken, dropStaleFor]
        exact (dropStale_swept _ later hook).wellKeyed
          (wellKeyed.entered id project now)
  | tell id statusName progress fields now later =>
      rcases tell_cases registry id statusName (.ofInteger? progress) fields
          now later hook with
        ⟨_, unchanged⟩ | ⟨status, base, used, _, _, shape⟩
      · simpa only [RegistryCall.run, unchanged] using wellKeyed
      · obtain ⟨touched, swept⟩ :=
          update_swept registry base status (.ofInteger? progress) used
            now later hook
        simp only [RegistryCall.run, shape]
        exact swept.wellKeyed (wellKeyed.put _)
  | release id => exact ⟨wellKeyed.idsNodup, wellKeyed.keyed⟩
  | startTask id => exact ⟨wellKeyed.idsNodup, wellKeyed.keyed⟩
  | finish id => exact ⟨wellKeyed.idsNodup, wellKeyed.keyed⟩
  | sweep now => exact (dropStale_swept registry now hook).wellKeyed wellKeyed

theorem WellKeyed.play
    {registry : Registry}
    (wellKeyed : registry.WellKeyed)
    (hook : EvictionHook)
    (calls : List RegistryCall) :
    (registry.play hook calls).WellKeyed := by
  induction calls generalizing registry with
  | nil => exact wellKeyed
  | cons call rest inductionHypothesis =>
      exact inductionHypothesis (wellKeyed.run hook call)

end Registry

end Montage
